import Gatehouse.Auth.Bearer
import Gatehouse.Proofs.Bytes.Base64Url
import Gatehouse.Proofs.Bytes.Utf8
import Gatehouse.Proofs.Text.Blank
import Gatehouse.Proofs.Token.Lifetime

/-!
# The credential of a request

A request is judged by one of its headers : the first `Authorization`, or if that is absent or empty
the first `Sec-WebSocket-Protocol` (`Bearer.IsChosen`). What the chosen value says has no part in
the choice, so a value that nobody can read is not passed over for another one.

A token of printable ASCII without spaces, as every issued token is (`Token.IsIssued.isSendable`),
can be presented in four ways, with spaces and tabs around it (`Bearer.Presents`). Each of them is
read back as the token, and as nothing else (`Bearer.token_of_presents`) : behind the words in front
of it, the token has no space, and both words have one. So a token is not cut even if it looks like
one of the words.
-/

namespace Gatehouse

/-! ## Choosing a header -/

namespace Headers

variable {headers before after : Headers} {name : String} {v : Bytes} {h : Header}

/-- The first header of a name is absent or empty. -/
def Lacks (headers : Headers) (name : String) : Prop :=
  ∀ v ∈ headers.first? name, v = []

/-- The first header of a name has a value that is not empty. -/
def Leads (headers : Headers) (name : String) (v : Bytes) : Prop :=
  headers.first? name = some v ∧ v ≠ []

theorem first?_of_split (hbefore : ∀ b ∈ before, Header.sameName b.name name = false)
    (hname : Header.sameName h.name name = true) :
    Headers.first? (before ++ h :: after) name = some h.value := by
  have hnone : List.find? (fun b => Header.sameName b.name name) before = none :=
    List.find?_eq_none.mpr fun b hb => by simp [hbefore b hb]
  rw [first?, List.find?_append, hnone, Option.none_or, List.find?_cons, hname]
  rfl

end Headers

namespace Bearer

variable {headers : Headers} {name : String} {v : Bytes}

/-- A header leads exactly if it is found, and is not empty. -/
theorem nonEmpty?_eq_some_iff : nonEmpty? headers name = some v ↔ headers.Leads name v := by
  rw [nonEmpty?, Option.filter_eq_some_iff, Headers.Leads]
  simp

theorem nonEmpty?_eq_none_iff : nonEmpty? headers name = none ↔ headers.Lacks name := by
  rw [nonEmpty?, Option.filter_eq_none_iff, Headers.Lacks]
  simp

/-- A value is the one that a request is judged by. -/
def IsChosen (headers : Headers) (v : Bytes) : Prop :=
  headers.Leads "Authorization" v ∨
    headers.Lacks "Authorization" ∧ headers.Leads "Sec-WebSocket-Protocol" v

/-- The second header is asked for what the first does not have. -/
theorem value?_eq_or : value? headers =
    (nonEmpty? headers "Authorization").or (nonEmpty? headers "Sec-WebSocket-Protocol") := by
  rw [value?]
  cases nonEmpty? headers "Authorization" <;> rfl

theorem value?_eq_some_iff : value? headers = some v ↔ IsChosen headers v := by
  rw [value?_eq_or, Option.or_eq_some_iff, nonEmpty?_eq_some_iff, nonEmpty?_eq_none_iff,
    nonEmpty?_eq_some_iff, IsChosen]

/-- There is no token exactly if neither header leads. -/
theorem extract_eq_none_iff : extract headers = none ↔
    headers.Lacks "Authorization" ∧ headers.Lacks "Sec-WebSocket-Protocol" := by
  rw [extract, Option.map_eq_none_iff, value?_eq_or, Option.or_eq_none_iff,
    nonEmpty?_eq_none_iff, nonEmpty?_eq_none_iff]

/-- The token is that of the header that is chosen. -/
theorem extract_of_isChosen (h : IsChosen headers v) : extract headers = some (token v) := by
  rw [extract, value?_eq_some_iff.mpr h]
  rfl

/-- The first header for the authorization is chosen, if it is not empty. -/
theorem isChosen_of_split {before after : Headers} {h : Header}
    (hbefore : ∀ b ∈ before, Header.sameName b.name "Authorization" = false)
    (hname : Header.sameName h.name "Authorization" = true) (hvalue : h.value ≠ []) :
    IsChosen (before ++ h :: after) h.value :=
  Or.inl ⟨Headers.first?_of_split hbefore hname, hvalue⟩

/-! ## Reading a value -/

/-- A value with a byte that cannot be read is a blank credential. -/
theorem token_of_unreadable {b : UInt8} (hb : b ∈ v) (h : Header.isVisible b = false) :
    token v = [] := by
  have hall : v.all Header.isVisible = false :=
    List.all_eq_false.mpr ⟨b, hb, by simp [h]⟩
  have hblank : Text.Blank.trim (strip scheme (strip subprotocol (Text.Blank.trim []))) = [] := by
    decide
  rw [token, Header.visible?, if_neg (by simp [hall])]
  exact hblank

theorem isVisible_ofNat : ∀ n < 0x7F, n = 0x09 ∨ 0x20 ≤ n →
    Header.isVisible (UInt8.ofNat n) = true := by
  decide

/-- The value of a readable text is read as the text. -/
theorem visible?_encode {text : List Char}
    (h : ∀ c ∈ text, c.toNat < 0x7F ∧ (c.toNat = 0x09 ∨ 0x20 ≤ c.toNat)) :
    Header.visible? (Utf8.encode text) = some text := by
  have hascii : ∀ c ∈ text, c.toNat < 0x80 := fun c hc => Nat.lt_succ_of_lt (h c hc).1
  have hchar : ∀ c ∈ text, Char.ofNat (UInt8.ofNat c.toNat).toNat = c := by
    intro c hc
    have hlt := hascii c hc
    rw [UInt8.toNat_ofNat', Nat.mod_eq_of_lt (by omega), Char.ofNat_toNat]
  rw [Utf8.encode_of_ascii hascii, Header.visible?, if_pos]
  · rw [List.map_map, Option.some.injEq]
    exact (List.map_congr_left hchar).trans (List.map_id text)
  · rw [List.all_map, List.all_eq_true]
    intro c hc
    exact isVisible_ofNat c.toNat (h c hc).1 (h c hc).2

theorem strip_append (lead text : List Char) : strip lead (lead ++ text) = text := by
  rw [strip, if_pos (by simp), List.drop_left]

theorem strip_of_not_prefix {lead text : List Char} (h : ¬List.IsPrefix lead text) :
    strip lead text = text := by
  rw [strip, if_neg (by simpa using h)]

/-! ## Presenting a token -/

/-- A text can be sent as a token : it is not empty, and of printable ASCII without spaces. -/
structure IsSendable (t : List Char) : Prop where
  ne_nil : t ≠ []
  printable : ∀ c ∈ t, 0x21 ≤ c.toNat ∧ c.toNat ≤ 0x7E

/-- What may stand in front of a token. -/
def leads : List (List Char) := [[], scheme, subprotocol, subprotocol ++ scheme]

/-- A value presents a token : with something in front or not, with more spaces behind that, and
with spaces and tabs around all of it. -/
def Presents (v : Bytes) (t : List Char) : Prop :=
  ∃ before lead spaces after, v = Utf8.encode (before ++ (lead ++ spaces ++ t) ++ after) ∧
    lead ∈ leads ∧ (∀ c ∈ spaces, c = ' ') ∧ (∀ c ∈ before, c = ' ' ∨ c = '\t') ∧
      ∀ c ∈ after, c = ' ' ∨ c = '\t'

theorem printable_leads : ∀ c ∈ leads.flatten, c.toNat < 0x7F ∧ 0x20 ≤ c.toNat := by
  have hall : leads.flatten.all (fun c => c.toNat < 0x7F ∧ 0x20 ≤ c.toNat) = true := by decide
  exact fun c hc => of_decide_eq_true (List.all_eq_true.mp hall c hc)

theorem not_isBlank_of_printable : ∀ n < 0x7F, 0x21 ≤ n →
    Text.inRanges Text.blankTable n = false := by
  decide

variable {t spaces lead : List Char}

theorem IsSendable.not_isBlank (ht : IsSendable t) : ∀ c ∈ t, Text.isBlank c = false := by
  intro c hc
  obtain ⟨hlow, hhigh⟩ := ht.printable c hc
  exact not_isBlank_of_printable c.toNat (Nat.lt_succ_of_le hhigh) hlow

theorem IsSendable.isTight (ht : IsSendable t) : Text.Blank.IsTight t :=
  ⟨fun c hc => ht.not_isBlank c (List.mem_of_head? hc),
    fun c hc => ht.not_isBlank c (List.mem_of_getLast? hc)⟩

/-- A word with a space in it does not begin the token, nor the spaces before it. -/
theorem IsSendable.not_prefix (ht : IsSendable t) (hspaces : ∀ c ∈ spaces, c = ' ')
    (hlead : ' ' ∈ lead) (hhead : lead.head? ≠ some ' ') : ¬List.IsPrefix lead (spaces ++ t) := by
  intro h
  cases spaces with
  | nil =>
    obtain ⟨hlow, -⟩ := ht.printable ' ' (h.subset hlead)
    exact absurd hlow (by decide)
  | cons c spaces =>
    obtain rfl := hspaces c List.mem_cons_self
    cases lead with
    | nil => cases hlead
    | cons d lead =>
      obtain ⟨rest, hrest⟩ := h
      exact hhead (congrArg some (List.cons.inj hrest).1)

theorem trim_spaces_append (ht : IsSendable t) (hspaces : ∀ c ∈ spaces, c = ' ') :
    Text.Blank.trim (spaces ++ t) = t := by
  have hblank : Text.isBlank ' ' = true := by decide
  have htrim : Text.Blank.trim (spaces ++ t ++ []) = t :=
    Text.Blank.trim_append ht.isTight (fun c hc => hspaces c hc ▸ hblank) (by simp)
  rwa [List.append_nil] at htrim

/-- Whichever words stand in front of a token, they are taken away and no more. -/
theorem strip_leads (ht : IsSendable t) (hspaces : ∀ c ∈ spaces, c = ' ') (hlead : lead ∈ leads) :
    strip scheme (strip subprotocol (lead ++ spaces ++ t)) = spaces ++ t := by
  have hscheme : strip scheme (spaces ++ t) = spaces ++ t :=
    strip_of_not_prefix (ht.not_prefix hspaces (by decide) (by decide))
  have hsubprotocol : strip subprotocol (spaces ++ t) = spaces ++ t :=
    strip_of_not_prefix (ht.not_prefix hspaces (by decide) (by decide))
  simp only [leads, List.mem_cons, List.not_mem_nil, or_false] at hlead
  rcases hlead with rfl | rfl | rfl | rfl
  · rw [List.nil_append, hsubprotocol, hscheme]
  · have hother : strip subprotocol (scheme ++ (spaces ++ t)) = scheme ++ (spaces ++ t) := rfl
    rw [List.append_assoc, hother, strip_append]
  · rw [List.append_assoc, strip_append, hscheme]
  · rw [List.append_assoc, List.append_assoc, strip_append, strip_append]

/-- A lead in front of a token is not trimmed, and keeps the spaces behind it. -/
theorem isTight_leads (ht : IsSendable t) (hlead : lead ∈ leads) (hne : lead ≠ []) :
    Text.Blank.IsTight (lead ++ spaces ++ t) := by
  refine ⟨fun c hc => ?_, fun c hc => ?_⟩
  · simp only [leads, List.mem_cons, List.not_mem_nil, or_false] at hlead
    rcases hlead with rfl | rfl | rfl | rfl
    · exact absurd rfl hne
    all_goals
      obtain rfl := Option.some.inj hc
      decide
  · rw [List.getLast?_append_of_ne_nil _ ht.ne_nil] at hc
    exact ht.isTight.last c hc

/-- However a token is presented, it is read back. -/
theorem token_of_presents (ht : IsSendable t) (h : Presents v t) : token v = t := by
  obtain ⟨before, lead, spaces, after, rfl, hlead, hspaces, hbefore, hafter⟩ := h
  have hblank : Text.isBlank ' ' = true ∧ Text.isBlank '\t' = true := by decide
  have hblanks : ∀ {text : List Char}, (∀ c ∈ text, c = ' ' ∨ c = '\t') →
      ∀ c ∈ text, Text.isBlank c = true := by
    intro text htext c hc
    rcases htext c hc with rfl | rfl
    · exact hblank.1
    · exact hblank.2
  rw [token, visible?_encode, Option.getD_some]
  · by_cases hne : lead = []
    · -- Nothing tells the spaces in front of the token from those around it.
      subst hne
      have htrim : Text.Blank.trim (before ++ ([] ++ spaces ++ t) ++ after) = t := by
        rw [List.nil_append, ← List.append_assoc]
        refine Text.Blank.trim_append ht.isTight ?_ (hblanks hafter)
        intro c hc
        rcases List.mem_append.mp hc with hc | hc
        · exact hblanks hbefore c hc
        · exact hspaces c hc ▸ hblank.1
      have hstrip : strip scheme (strip subprotocol ([] ++ [] ++ t)) = [] ++ t :=
        strip_leads ht (by simp) hlead
      rw [List.nil_append, List.nil_append] at hstrip
      rw [htrim, hstrip]
      exact Text.Blank.trim_of_isTight ht.isTight
    · rw [Text.Blank.trim_append (isTight_leads ht hlead hne) (hblanks hbefore) (hblanks hafter),
        strip_leads ht hspaces hlead, trim_spaces_append ht hspaces]
  · intro c hc
    have hpad : c = ' ' ∨ c = '\t' → c.toNat < 0x7F ∧ (c.toNat = 0x09 ∨ 0x20 ≤ c.toNat) := by
      rintro (rfl | rfl) <;> decide
    simp only [List.mem_append] at hc
    rcases hc with (hc | (hc | hc) | hc) | hc
    · exact hpad (hbefore c hc)
    · have hread := printable_leads c (List.mem_flatten_of_mem hlead hc)
      exact ⟨hread.1, Or.inr hread.2⟩
    · exact hpad (Or.inl (hspaces c hc))
    · obtain ⟨hlow, hhigh⟩ := ht.printable c hc
      exact ⟨by omega, Or.inr (by omega)⟩
    · exact hpad (hafter c hc)

end Bearer

/-! ## Issued tokens -/

namespace Token

/-- A text has been issued as a token, with a secret or by a codec. -/
def IsIssued (t : List Char) : Prop :=
  (∃ user issuer minutes secret now tokenId,
    issue user issuer minutes secret now tokenId = .ok t) ∨
  ∃ (codec : TokenCodec) (user : User) (now : Instant) (tokenId : String),
    codec.issue user now tokenId = .ok t

/-- Every token that is signed can be sent. -/
theorem isSendable_sign (c : Claims) (secret : Bytes) : Bearer.IsSendable (sign c secret) := by
  refine ⟨by simp [sign], fun d hd => ?_⟩
  obtain ⟨hlow, hhigh, -⟩ := printable_of_mem_sign hd
  exact ⟨hlow, hhigh⟩

theorem IsIssued.isSendable {t : List Char} (h : IsIssued t) : Bearer.IsSendable t := by
  rcases h with ⟨user, issuer, minutes, secret, now, tokenId, h⟩ | ⟨codec, user, now, tokenId, h⟩
  · obtain ⟨-, c, -, rfl⟩ := issue_eq_ok_iff.mp h
    exact isSendable_sign c secret
  · obtain ⟨c, -, rfl⟩ := map_eq_ok_iff.mp h
    exact isSendable_sign c codec.secret

end Token

/-! ## Requests -/

namespace Bearer

/-- How the credential of a request hangs on its headers. -/
structure Extraction (headers : Headers) : Prop where
  /-- There is none exactly if both headers are absent or empty. -/
  none_iff : extract headers = none ↔
    headers.Lacks "Authorization" ∧ headers.Lacks "Sec-WebSocket-Protocol"
  /-- Where the first `Authorization` says something, no other header matters. -/
  first : ∀ v, headers.Leads "Authorization" v → ∀ (before after : Headers) (name : String),
    (∀ b ∈ before, Header.sameName b.name "Authorization" = false) →
      Header.sameName name "Authorization" = true →
        extract (before ++ ⟨name, v⟩ :: after) = extract headers
  tight : ∀ t ∈ extract headers, Text.Blank.IsTight t
  /-- A chosen value that cannot be read is a blank credential, whatever else is there. -/
  unreadable : ∀ v, IsChosen headers v → (∃ b ∈ v, Header.isVisible b = false) →
    extract headers = some []
  presented : ∀ v t, IsChosen headers v → Presents v t → IsSendable t → extract headers = some t
  issued : ∀ v t, IsChosen headers v → Presents v t → Token.IsIssued t → extract headers = some t

/-- Whatever headers a request has, its credential is the token that one of them presents; it is
blank if that header cannot be read, and there is none only if neither header says anything. -/
theorem extraction_of_headers (headers : Headers) : Extraction headers := by
  have hpresented : ∀ v t, IsChosen headers v → Presents v t → IsSendable t →
      extract headers = some t := by
    intro v t hv ht hsendable
    rw [extract_of_isChosen hv, token_of_presents hsendable ht]
  refine ⟨extract_eq_none_iff, ?_, ?_, ?_, hpresented, ?_⟩
  · intro v hv before after name hbefore hname
    rw [extract_of_isChosen (isChosen_of_split (h := ⟨name, v⟩) hbefore hname hv.2),
      extract_of_isChosen (Or.inl hv)]
  · intro t ht
    obtain ⟨v, -, rfl⟩ := Option.map_eq_some_iff.mp ht
    exact Text.Blank.isTight_trim _
  · rintro v hv ⟨b, hb, hunreadable⟩
    rw [extract_of_isChosen hv, token_of_unreadable hb hunreadable]
  · intro v t hv ht hissued
    exact hpresented v t hv ht hissued.isSendable

/-- Headers with a token that looks like the word for its kind, in the second place that is looked
at because the first is empty. -/
def disguised : Headers :=
  [⟨"AUTHORIZATION", []⟩, ⟨"Authorization", Utf8.encode "Bearer other".toList⟩,
    ⟨"sec-websocket-protocol", Utf8.encode "\tAuthorization, Bearer   Bearer ".toList⟩]

theorem extraction_of_headers_disguised : extract disguised = some "Bearer".toList := by
  refine (extraction_of_headers disguised).presented
    (Utf8.encode "\tAuthorization, Bearer   Bearer ".toList) _ (Or.inr ⟨?_, ?_⟩) ?_ ?_
  · intro v hv
    have hfirst : disguised.first? "Authorization" = some [] := by decide
    exact (Option.some.inj (hfirst.symm.trans hv)).symm
  · exact ⟨by decide, by decide⟩
  · exact ⟨['\t'], subprotocol ++ scheme, [' ', ' '], [' '], by decide, by decide, by simp, by simp,
      by simp⟩
  · have hall : "Bearer".toList.all (fun c => 0x21 ≤ c.toNat ∧ c.toNat ≤ 0x7E) = true := by decide
    exact ⟨by decide, fun c hc => of_decide_eq_true (List.all_eq_true.mp hall c hc)⟩

end Bearer

end Gatehouse
