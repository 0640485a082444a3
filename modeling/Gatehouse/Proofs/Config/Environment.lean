import Gatehouse.Config.Environment
import Mathlib.Tactic.SplitIfs

/-!
# Settings laid over others

Of the variables whose names differ in case only, the last decides. Where a text can be read from
the setting of a key behind all of them, the setting is the guess for the value of that variable,
or the one that was there before if there is none (`get?_laidOver`). A name that reaches into a
table or a list leaves none there that a text can be read from.
-/

namespace Gatehouse

namespace Variables

/-- The key that the variable of a name sets. -/
def key (name : String) : String :=
  String.ofList (Notation.lower name.toList)

/-- The value that variables give to a key : that of the last variable that sets it. -/
def valueOf? : Variables → String → Option String
  | [], _ => none
  | v :: vs, k => (valueOf? vs k).or (if key v.1 = k then some v.2 else none)

/-- No two names differ in case only. -/
def AreDistinct (vs : Variables) : Prop :=
  (vs.map fun v => key v.1).Nodup

instance (vs : Variables) : Decidable vs.AreDistinct :=
  inferInstanceAs (Decidable (List.Nodup _))

theorem valueOf?_eq_none {k : String} :
    ∀ {vs : Variables}, k ∉ vs.map (fun v => key v.1) → vs.valueOf? k = none
  | [], _ => rfl
  | v :: vs, h => by
    obtain ⟨hv, hvs⟩ := not_or.mp (mt List.mem_cons.mpr h)
    rw [valueOf?, valueOf?_eq_none hvs, if_neg (Ne.symm hv), Option.none_or]

/-- Where names are distinct, every variable gives its value to its key. -/
theorem valueOf?_of_mem {name v : String} :
    ∀ {vs : Variables}, vs.AreDistinct → (name, v) ∈ vs → vs.valueOf? (key name) = some v
  | w :: vs, hdistinct, hmem => by
    obtain ⟨hhead, htail⟩ := List.nodup_cons.mp hdistinct
    rcases List.mem_cons.mp hmem with rfl | hmem
    · rw [valueOf?, valueOf?_eq_none hhead, if_pos rfl, Option.none_or]
    · rw [valueOf?, valueOf?_of_mem htail hmem, Option.some_or]

end Variables

/-- The value of a variable is never a table. -/
theorem Setting.guess_ne_table (v : String) (isEmpty : Bool) :
    Setting.guess v ≠ .table isEmpty := by
  simp only [guess]
  split_ifs
  · exact Setting.noConfusion
  · exact Setting.noConfusion
  · split
    · exact Setting.noConfusion
    · split
      · exact Setting.noConfusion
      · exact Setting.noConfusion

/-! ## One entry -/

namespace Source

theorem get?_cons (p : String × Entry) (s : Source) (key : String) :
    get? (p :: s) key = if key = p.1 then some p.2 else s.get? key := by
  rw [get?, List.lookup_cons]
  by_cases h : key = p.1
  · rw [if_pos h, beq_iff_eq.mpr h]
  · rw [if_neg h, beq_false_of_ne h]
    rfl

theorem get?_filter {k key : String} (h : key ≠ k) :
    ∀ s : Source, get? (s.filter fun p => p.1 != k) key = s.get? key
  | [] => rfl
  | p :: s => by
    rw [List.filter_cons, get?_cons p s]
    split_ifs with hp hkey hkey
    · rw [get?_cons, if_pos hkey]
    · rw [get?_cons, if_neg hkey, get?_filter h s]
    · rw [bne_iff_ne, ← hkey] at hp
      exact absurd h hp
    · exact get?_filter h s

/-- What is set for a key is what the key has, and other keys keep theirs. -/
theorem get?_set (s : Source) (k : String) (e : Entry) (key : String) :
    (s.set k e).get? key = if key = k then some e else s.get? key := by
  rw [set, get?_cons]
  split_ifs with h
  · rfl
  · exact get?_filter h s

end Source

namespace Path

theorem isTail_cons {c : Char} (hdot : c ≠ '.') (hbracket : c ≠ '[') (rest : List Char) :
    ∀ fuel, isTail fuel (c :: rest) = false
  | 0 => rfl
  | fuel + 1 => by
    rw [isTail.eq_def]
    simp [hdot, hbracket]

/-- The path of a name is that name. -/
theorem eq_of_ofString_eq_name {s name : String} (h : ofString s = .name name) : name = s := by
  simp only [ofString] at h
  split_ifs at h with hname
  · exact (Path.name.inj h).symm
  · simp only [Bool.or_eq_true, not_or, Bool.not_eq_true', Bool.not_eq_false] at hname
    obtain ⟨-, htail⟩ := hname
    split at h
    · cases h
    · cases h
    next hdot hbracket =>
      -- only a point or a bracket can follow the name, so nothing does
      have hnil : s.toList.dropWhile isNameChar = [] := by
        cases hrest : s.toList.dropWhile isNameChar with
        | nil => rfl
        | cons c rest =>
          have hnodot : c ≠ '.' := fun hc => hdot rest (hc ▸ hrest)
          have hnobracket : c ≠ '[' := fun hc => hbracket rest (hc ▸ hrest)
          rw [hrest, isTail_cons hnodot hnobracket] at htail
          cases htail
      rw [← Path.name.inj h, ← List.append_nil (s.toList.takeWhile isNameChar), ← hnil,
        List.takeWhile_append_dropWhile, String.ofList_toList]

end Path

namespace Source

variable {s : Source} {key k v : String} {o : Option String} {e : Entry}

/-- A guess is no table, so it is put in the place of what was there. -/
theorem put_guess (s : Source) (k v : String) (o : Option String) :
    s.put k ⟨Setting.guess v, o⟩ = s.set k ⟨Setting.guess v, o⟩ := by
  cases h : Setting.guess v with
  | table isEmpty => exact absurd h (Setting.guess_ne_table v isEmpty)
  | _ => rfl

theorem putAt_inTable (s : Source) (k : String) (e : Entry) :
    ∃ o, s.putAt (.inTable k) e = s.set k ⟨.table false, o⟩ := by
  rw [putAt]
  split
  · exact ⟨_, rfl⟩
  · exact ⟨_, rfl⟩

theorem putAt_inList (s : Source) (k : String) (e : Entry) :
    ∃ o, s.putAt (.inList k) e = s.set k ⟨.list, o⟩ := by
  rw [putAt]
  split
  · exact ⟨_, rfl⟩
  · exact ⟨_, rfl⟩

theorem get?_of_get?_set {e' : Entry} (hne : e' ≠ e) (h : (s.set k e').get? key = some e) :
    s.get? key = some e := by
  rw [get?_set] at h
  split_ifs at h
  · exact absurd (Option.some.inj h) hne
  · exact h

/-- What can be read as a text behind one more variable is the guess for its value, or was there
before. -/
theorem get?_putAt (hkey : Path.ofString key = .name key) (htext : e.setting.text? ≠ none)
    (h : (s.putAt (Path.ofString k) ⟨Setting.guess v, o⟩).get? key = some e) :
    if k = key then e.setting = Setting.guess v else s.get? key = some e := by
  cases hpath : Path.ofString k with
  | name name =>
    obtain rfl := Path.eq_of_ofString_eq_name hpath
    rw [hpath, putAt, put_guess, get?_set] at h
    split_ifs at h ⊢ with hname hname' hname'
    · rw [← Option.some.inj h]
    · exact absurd hname.symm hname'
    · exact absurd hname'.symm hname
    · exact h
  | inTable name =>
    have hne : k ≠ key := by
      rintro rfl
      cases hkey.symm.trans hpath
    rw [if_neg hne]
    obtain ⟨o', hset⟩ := putAt_inTable s name ⟨Setting.guess v, o⟩
    rw [hpath, hset] at h
    exact get?_of_get?_set (fun ho => htext (ho ▸ rfl)) h
  | inList name =>
    have hne : k ≠ key := by
      rintro rfl
      cases hkey.symm.trans hpath
    rw [if_neg hne]
    obtain ⟨o', hset⟩ := putAt_inList s name ⟨Setting.guess v, o⟩
    rw [hpath, hset] at h
    exact get?_of_get?_set (fun ho => htext (ho ▸ rfl)) h

end Source

namespace Variables

theorem laidOver_cons (v : String × String) (vs : Variables) (s : Source) :
    laidOver (v :: vs) s =
      vs.laidOver (s.putAt (Path.ofString (key v.1)) ⟨Setting.guess v.2, some origin⟩) := by
  rw [laidOver, List.foldl_cons, ← laidOver, key]

/-- A key that is a name has the value of its last variable, or else what it had before. -/
theorem get?_laidOver {k : String} {e : Entry} (hk : Path.ofString k = .name k)
    (htext : e.setting.text? ≠ none) {vs : Variables} {s : Source}
    (h : (vs.laidOver s).get? k = some e) :
    match vs.valueOf? k with
    | some v => e.setting = Setting.guess v
    | none => s.get? k = some e := by
  induction vs generalizing s with
  | nil => exact h
  | cons v vs ih =>
    rw [laidOver_cons] at h
    have hvs := ih h
    rw [valueOf?]
    cases hvalue : valueOf? vs k with
    | some w =>
      rw [hvalue] at hvs
      exact hvs
    | none =>
      rw [hvalue] at hvs
      have hput := Source.get?_putAt hk htext hvs
      rw [Option.none_or]
      split_ifs at hput ⊢ with hname
      · exact hput
      · exact hput

end Variables

end Gatehouse
