import Gatehouse.Proofs.Number.Word
import Gatehouse.Proofs.Token.Order

/-!
# Expiry by a clock that moves forward

A codec stands on a clock that is moved by hand, and while it issues and verifies tokens the clock
is moved forward (`TokenCodec.Step`). Of a span that it is moved by the clock counts the whole
seconds, so at the end it stands where it stood at the start, moved by their sum
(`TokenCodec.after_eq`). As long as that is an instant, what the clock reads never goes back, and a
token that is expired after it was accepted is never accepted again : what it says over time it says
between two bounds, and the clock has passed the upper one (`TokenCodec.isFinal_of_steps`).

Behind the last instant the clock reads as the start of 1970. There it does go back, and a text that
is accepted at the start of 1970 is accepted once more (`TokenCodec.accepted_behind_lastSecond`).
-/

namespace Gatehouse

/-! ## Clocks -/

namespace ManualClock

open Width (fitsSigned fitsSigned_iff)

variable {clock a b : ManualClock} {n : Int}

theorem advance_zero (clock : ManualClock) : clock.advance 0 = clock :=
  congrArg mk (Int64.add_zero clock.seconds)

/-- To move a clock twice is to move it by the sum, whether or not it wraps around. -/
theorem advance_advance (clock : ManualClock) (m n : Int) :
    (clock.advance m).advance n = clock.advance (m + n) := by
  rw [advance, advance, advance, Int64.ofInt_add, Int64.add_assoc]

/-- The seconds of a clock move by what they are moved, while they fit a word. -/
theorem toInt_advance (h : fitsSigned (clock.seconds.toInt + n) = true) :
    (clock.advance n).seconds.toInt = clock.seconds.toInt + n := by
  obtain ⟨hlow, hhigh⟩ := fitsSigned_iff.mp h
  have hsize : Int64.size = 2 ^ 64 := rfl
  rw [advance, Int64.toInt_add, Int64.toInt_ofInt, hsize, Int.add_bmod_bmod]
  exact Int.bmod_eq_of_le (by omega) (by omega)

theorem toInt_ofInstant {t : Instant} (h : Instant.inRange t.seconds = true) :
    (ofInstant t).seconds.toInt = t.seconds :=
  Word.toInt_ofInt (Instant.fitsSigned_of_inRange h)

theorem now_of_inRange (h : Instant.inRange clock.seconds.toInt = true) :
    clock.now = ⟨clock.seconds.toInt, 0⟩ := by
  rw [now, Instant.ofSeconds?, if_pos h, Option.getD_some]

/-- A clock that has left its range reads the epoch. -/
theorem now_of_not_inRange (h : ¬Instant.inRange clock.seconds.toInt = true) :
    clock.now = Instant.epoch := by
  rw [now, Instant.ofSeconds?, if_neg h, Option.getD_none]

theorem now_le_now (ha : Instant.inRange a.seconds.toInt = true)
    (hb : Instant.inRange b.seconds.toInt = true) (h : a.seconds.toInt ≤ b.seconds.toInt) :
    a.now ≤ b.now := by
  rw [now_of_inRange ha, now_of_inRange hb]
  rcases Int.lt_or_eq_of_le h with hlt | heq
  · exact Or.inl hlt
  · exact Or.inr ⟨heq, Nat.le_refl 0⟩

end ManualClock

/-! ## Texts -/

namespace Token

variable {text : List Char} {secret : Bytes} {claims : Claims}

/-- A text that is expired after it was accepted is expired from then on. -/
theorem verify_of_expired {a b c : Instant} (ha : verify text secret a = .ok claims)
    (hb : verify text secret b = .error .expired) (hab : a.seconds ≤ b.seconds)
    (hbc : b.seconds ≤ c.seconds) : verify text secret c = .error .expired := by
  obtain ⟨hbegun, -⟩ := contains_iff.mp (contains_of_verify ha)
  rw [verify_of_verify ha] at hb ⊢
  split_ifs at hb with hcontains
  rw [contains_iff, not_and] at hcontains
  have hended := hcontains fun t ht => (hbegun t ht).trans hab
  rw [if_neg]
  intro hlater
  exact hended (hbc.trans (contains_iff.mp hlater).2)

/-- So it is by a clock that has moved forward from one instant to another. -/
theorem verify_now_of_expired {a b c : ManualClock}
    (ha : verify text secret a.now = .ok claims) (hb : verify text secret b.now = .error .expired)
    (hab : a.seconds.toInt ≤ b.seconds.toInt) (hbc : b.seconds.toInt ≤ c.seconds.toInt)
    (hlow : Instant.inRange a.seconds.toInt = true)
    (hhigh : Instant.inRange c.seconds.toInt = true) :
    verify text secret c.now = .error .expired := by
  have hmiddle : Instant.inRange b.seconds.toInt = true := by
    rw [Instant.inRange_iff] at hlow hhigh ⊢
    omega
  refine verify_of_expired ha hb ?_ ?_
  · rw [ManualClock.now_of_inRange hlow, ManualClock.now_of_inRange hmiddle]
    exact hab
  · rw [ManualClock.now_of_inRange hmiddle, ManualClock.now_of_inRange hhigh]
    exact hbc

end Token

/-! ## Steps -/

namespace TokenCodec

open Width (fitsSigned fitsSigned_iff maxSigned)

/-- Something that is done with a codec and its clock : a text is verified, a token is issued, or
the clock is moved forward. -/
inductive Step
  | verify (text : List Char)
  | issue (user : User) (tokenId : String)
  | advance (span : Span)

/-- What comes of a step. -/
inductive Outcome
  | verified (text : List Char) (answer : Except TokenError Claims)
  | issued (answer : Except TokenError (List Char))
  | advanced

/-- The whole seconds that a step moves the clock by. -/
def Step.seconds : Step → Nat
  | .advance span => span.nanos / Span.perSecond
  | _ => 0

/-- The clock after a step. -/
def Step.moved (clock : ManualClock) : Step → ManualClock
  | .advance span => clock.advance (span.nanos / Span.perSecond : Nat)
  | _ => clock

/-- What comes of a step of a codec by a clock. The system's clock is not asked. -/
def Step.outcome (codec : TokenCodec) (systemNow : Instant) (clock : ManualClock) : Step → Outcome
  | .verify text => .verified text ((codec.withClock clock).verify text systemNow)
  | .issue user tokenId => .issued ((codec.withClock clock).issue user systemNow tokenId)
  | .advance _ => .advanced

/-- The whole seconds that steps move the clock by. -/
def elapsed : List Step → Nat
  | [] => 0
  | x :: steps => x.seconds + elapsed steps

/-- The clock after steps. -/
def after (clock : ManualClock) (steps : List Step) : ManualClock :=
  steps.foldl Step.moved clock

/-- The clock before every step and after the last. -/
def clocks (clock : ManualClock) (steps : List Step) : List ManualClock :=
  steps.scanl Step.moved clock

/-- What comes of steps, with the clock that each is taken by. -/
def log (codec : TokenCodec) (systemNow : Instant) :
    ManualClock → List Step → List (ManualClock × Outcome)
  | _, [] => []
  | clock, x :: steps =>
    (clock, x.outcome codec systemNow clock) :: log codec systemNow (x.moved clock) steps

variable {codec : TokenCodec} {systemNow : Instant} {clock : ManualClock} {steps : List Step}

theorem Step.moved_eq_advance (clock : ManualClock) : ∀ x : Step,
    x.moved clock = clock.advance x.seconds
  | .verify _ => clock.advance_zero.symm
  | .issue _ _ => clock.advance_zero.symm
  | .advance _ => rfl

/-- The clock counts the seconds it is moved by. -/
theorem after_eq : ∀ (steps : List Step) (clock : ManualClock),
    after clock steps = clock.advance (elapsed steps)
  | [], clock => clock.advance_zero.symm
  | x :: steps, clock => by
    rw [after, List.foldl_cons, ← after, after_eq steps, x.moved_eq_advance,
      ManualClock.advance_advance, elapsed, Int.natCast_add]

/-- A step moves the seconds of the clock by its own. -/
theorem Step.toInt_moved (x : Step)
    (h : clock.seconds.toInt + (x.seconds : Int) ≤ maxSigned) :
    (x.moved clock).seconds.toInt = clock.seconds.toInt + (x.seconds : Int) := by
  have hlow := (fitsSigned_iff.mp (Word.fitsSigned_toInt clock.seconds)).1
  rw [x.moved_eq_advance]
  exact ManualClock.toInt_advance (fitsSigned_iff.mpr ⟨by omega, h⟩)

/-- As long as a clock does not wrap around it stands between where it starts and where it ends. -/
theorem toInt_of_mem_clocks : ∀ {steps : List Step} {clock : ManualClock},
    clock.seconds.toInt + (elapsed steps : Int) ≤ maxSigned → ∀ c ∈ clocks clock steps,
      clock.seconds.toInt ≤ c.seconds.toInt ∧
        c.seconds.toInt ≤ clock.seconds.toInt + (elapsed steps : Int)
  | [], clock, _, c, hc => by
    rw [clocks, List.scanl_nil, List.mem_singleton] at hc
    subst hc
    exact ⟨Int.le_refl _, Int.le_add_of_nonneg_right (Int.natCast_nonneg _)⟩
  | x :: steps, clock, h, c, hc => by
    rw [elapsed, Int.natCast_add] at h ⊢
    rw [clocks, List.scanl_cons, List.mem_cons, ← clocks] at hc
    have hx : clock.seconds.toInt + (x.seconds : Int) ≤ maxSigned := by omega
    have hmoved := x.toInt_moved hx
    rcases hc with rfl | hc
    · omega
    · have hbounds := toInt_of_mem_clocks (by omega) c hc
      omega

/-- And it does not go back. -/
theorem pairwise_clocks : ∀ {steps : List Step} {clock : ManualClock},
    clock.seconds.toInt + (elapsed steps : Int) ≤ maxSigned →
      (clocks clock steps).Pairwise fun a b => a.seconds.toInt ≤ b.seconds.toInt
  | [], clock, _ => List.pairwise_singleton _ _
  | x :: steps, clock, h => by
    rw [elapsed, Int.natCast_add] at h
    have hx : clock.seconds.toInt + (x.seconds : Int) ≤ maxSigned := by omega
    have hmoved := x.toInt_moved hx
    rw [clocks, List.scanl_cons, List.pairwise_cons, ← clocks]
    refine ⟨fun c hc => ?_, pairwise_clocks (by omega)⟩
    have hbounds := toInt_of_mem_clocks (by omega) c hc
    omega

/-- The log has clocks of the run, in their order. -/
theorem map_fst_log_sublist : ∀ (steps : List Step) (clock : ManualClock),
    ((log codec systemNow clock steps).map Prod.fst).Sublist (clocks clock steps)
  | [], clock => List.nil_sublist _
  | x :: steps, clock => by
    rw [clocks, List.scanl_cons, ← clocks, log, List.map_cons]
    exact (map_fst_log_sublist steps (x.moved clock)).cons_cons clock

/-- What comes of verifying is what the text says at the time that the clock reads. -/
theorem eq_verify_of_mem_log : ∀ {steps : List Step} {clock c : ManualClock} {text : List Char}
    {answer : Except TokenError Claims},
    (c, Outcome.verified text answer) ∈ log codec systemNow clock steps →
      answer = Token.verify text codec.secret c.now
  | [], _, _, _, _, h => absurd h List.not_mem_nil
  | x :: steps, clock, c, text, answer, h => by
    rw [log, List.mem_cons] at h
    rcases h with h | h
    · obtain ⟨rfl, hx⟩ := Prod.mk.inj h
      cases x with
      | verify text' =>
        obtain ⟨rfl, rfl⟩ := Outcome.verified.inj hx
        rfl
      | issue user tokenId => cases hx
      | advance span => cases hx
    · exact eq_verify_of_mem_log h

/-! ## Expiry -/

section Expiry

variable {text : List Char} {claims again : Claims} {a b c : ManualClock}

/-- A text is accepted, then it is expired, then it is accepted again. -/
def AcceptedAgain (log : List (ManualClock × Outcome)) (text : List Char) (claims again : Claims)
    (a b c : ManualClock) : Prop :=
  [(a, .verified text (.ok claims)), (b, .verified text (.error .expired)),
    (c, .verified text (.ok again))].Sublist log

theorem AcceptedAgain.verify
    (h : AcceptedAgain (log codec systemNow clock steps) text claims again a b c) :
    Token.verify text codec.secret a.now = .ok claims ∧
      Token.verify text codec.secret b.now = .error .expired ∧
        Token.verify text codec.secret c.now = .ok again := by
  have hmem := h.subset
  exact ⟨(eq_verify_of_mem_log (hmem (by simp))).symm, (eq_verify_of_mem_log (hmem (by simp))).symm,
    (eq_verify_of_mem_log (hmem (by simp))).symm⟩

/-- The clocks of the three are in order, and within the run. -/
theorem AcceptedAgain.toInt_le (hword : clock.seconds.toInt + (elapsed steps : Int) ≤ maxSigned)
    (h : AcceptedAgain (log codec systemNow clock steps) text claims again a b c) :
    (clock.seconds.toInt ≤ a.seconds.toInt ∧ a.seconds.toInt ≤ b.seconds.toInt) ∧
      b.seconds.toInt ≤ c.seconds.toInt ∧
        c.seconds.toInt ≤ clock.seconds.toInt + (elapsed steps : Int) := by
  have hclocks : [a, b, c].Sublist (clocks clock steps) :=
    (h.map Prod.fst).trans (map_fst_log_sublist steps clock)
  have hpairs := (pairwise_clocks hword).sublist hclocks
  have ha := toInt_of_mem_clocks hword a (hclocks.subset (by simp))
  have hc := toInt_of_mem_clocks hword c (hclocks.subset (by simp))
  simp only [List.pairwise_cons, List.mem_cons, List.not_mem_nil, or_false, forall_eq_or_imp,
    forall_eq] at hpairs
  exact ⟨⟨ha.1, hpairs.1.1⟩, hpairs.2.1, hc.2⟩

/-- A clock stands at an instant before steps and after them. -/
structure InRange (clock : ManualClock) (steps : List Step) : Prop where
  start : Instant.inRange clock.seconds.toInt = true
  stop : Instant.inRange (clock.seconds.toInt + elapsed steps) = true

/-- A clock that is made of an instant stands at one. -/
theorem inRange_of_instant {t : Instant} (h : Instant.inRange t.seconds = true)
    (hstop : Instant.inRange (t.seconds + elapsed steps) = true) :
    InRange (.ofInstant t) steps := by
  have hseconds := ManualClock.toInt_ofInstant h
  exact ⟨hseconds.symm ▸ h, hseconds.symm ▸ hstop⟩

theorem InRange.toInt_le (h : InRange clock steps) :
    clock.seconds.toInt + (elapsed steps : Int) ≤ maxSigned :=
  (Instant.inRange_iff.mp h.stop).2.trans (by decide)

/-- What holds of a codec while its clock is moved forward. -/
structure IsFinal (codec : TokenCodec) (systemNow : Instant) (clock : ManualClock)
    (steps : List Step) : Prop where
  /-- The clock counts all whole seconds. -/
  counted : after clock steps = clock.advance (elapsed steps)
  /-- From one instant to another, what it reads never goes back, -/
  forward : InRange clock steps → (clocks clock steps).Pairwise fun a b => a.now ≤ b.now
  /-- and a text that is expired after it was accepted is not accepted again. -/
  final : InRange clock steps → ∀ text claims again a b c,
    ¬AcceptedAgain (log codec systemNow clock steps) text claims again a b c
  /-- Behind the last instant it reads as the start of 1970, -/
  behind : Instant.maxSeconds < clock.seconds.toInt + elapsed steps →
    clock.seconds.toInt + elapsed steps ≤ maxSigned → (after clock steps).now = Instant.epoch
  /-- and accepted again is none but what is accepted then. -/
  again : clock.seconds.toInt + elapsed steps ≤ maxSigned → ∀ text claims again a b c,
    AcceptedAgain (log codec systemNow clock steps) text claims again a b c →
      Token.verify text codec.secret Instant.epoch = .ok claims

/-- In range the times of a run are in order. -/
theorem pairwise_now_clocks (h : InRange clock steps) :
    (clocks clock steps).Pairwise fun a b => a.now ≤ b.now := by
  have hbounds := toInt_of_mem_clocks h.toInt_le
  have hrange : ∀ c ∈ clocks clock steps, Instant.inRange c.seconds.toInt = true := fun c hc => by
    have hstart := Instant.inRange_iff.mp h.start
    have hstop := Instant.inRange_iff.mp h.stop
    have hc := hbounds c hc
    rw [Instant.inRange_iff]
    omega
  exact (pairwise_clocks h.toInt_le).imp_of_mem fun ha hb hle =>
    ManualClock.now_le_now (hrange _ ha) (hrange _ hb) hle

/-- In range no token is accepted again, since a window has no gap. -/
theorem not_acceptedAgain (h : InRange clock steps) :
    ¬AcceptedAgain (log codec systemNow clock steps) text claims again a b c := by
  intro hagain
  obtain ⟨⟨hstart, hab⟩, hbc, hstop⟩ := hagain.toInt_le h.toInt_le
  obtain ⟨ha, hb, hc⟩ := hagain.verify
  have hlow := Instant.inRange_iff.mp h.start
  have hhigh := Instant.inRange_iff.mp h.stop
  rw [Token.verify_now_of_expired ha hb hab hbc (Instant.inRange_iff.mpr (by omega))
    (Instant.inRange_iff.mpr (by omega))] at hc
  cases hc

/-- If all three times are read as instants the text cannot be accepted again. So the first or the
last is read as the start of 1970. -/
theorem verify_epoch_of_acceptedAgain
    (hword : clock.seconds.toInt + (elapsed steps : Int) ≤ maxSigned)
    (h : AcceptedAgain (log codec systemNow clock steps) text claims again a b c) :
    Token.verify text codec.secret Instant.epoch = .ok claims := by
  obtain ⟨⟨-, hab⟩, hbc, -⟩ := h.toInt_le hword
  obtain ⟨ha, hb, hc⟩ := h.verify
  by_cases hlow : Instant.inRange a.seconds.toInt = true
  · by_cases hhigh : Instant.inRange c.seconds.toInt = true
    · rw [Token.verify_now_of_expired ha hb hab hbc hlow hhigh] at hc
      cases hc
    · rw [ManualClock.now_of_not_inRange hhigh, Token.verify_of_verify ha] at hc
      rw [Token.verify_of_verify ha]
      split_ifs at hc ⊢
      rfl
  · rwa [ManualClock.now_of_not_inRange hlow] at ha

/-- Past the range, but not past the word, a run ends at the epoch. -/
theorem now_after_of_maxSeconds_lt
    (h : Instant.maxSeconds < clock.seconds.toInt + (elapsed steps : Int))
    (hword : clock.seconds.toInt + (elapsed steps : Int) ≤ maxSigned) :
    (after clock steps).now = Instant.epoch := by
  have hstart := (fitsSigned_iff.mp (Word.fitsSigned_toInt clock.seconds)).1
  rw [after_eq]
  refine ManualClock.now_of_not_inRange fun hrange => ?_
  rw [ManualClock.toInt_advance (fitsSigned_iff.mpr ⟨by omega, hword⟩), Instant.inRange_iff]
    at hrange
  rw [Instant.maxSeconds] at h
  omega

/-- Expiry is final as long as the clock is moved from one instant to another. Behind the last it
goes back to the start of 1970, and expiry is final for what is not accepted then. -/
theorem isFinal_of_steps (codec : TokenCodec) (systemNow : Instant) (clock : ManualClock)
    (steps : List Step) : IsFinal codec systemNow clock steps where
  counted := after_eq steps clock
  forward := pairwise_now_clocks
  final h _ _ _ _ _ _ := not_acceptedAgain h
  behind := now_after_of_maxSeconds_lt
  again hword _ _ _ _ _ _ := verify_epoch_of_acceptedAgain hword

end Expiry

/-! ## A visit -/

/-- A text is verified, then again after 61 seconds, and once more after a longer time. -/
def visitSteps (text : List Char) (seconds : Nat) : List Step :=
  [.verify text, .advance (.ofSeconds 61), .verify text, .advance (.ofSeconds seconds),
    .verify text]

theorem log_visitSteps (text : List Char) (seconds : Nat) :
    log codec systemNow clock (visitSteps text seconds) =
      [(clock, .verified text (Token.verify text codec.secret clock.now)), (clock, .advanced),
        (clock.advance 61, .verified text (Token.verify text codec.secret (clock.advance 61).now)),
        (clock.advance 61, .advanced),
        ((clock.advance 61).advance seconds, .verified text
          (Token.verify text codec.secret ((clock.advance 61).advance seconds).now))] := by
  have hseconds : Span.nanos (.ofSeconds seconds) / Span.perSecond = seconds :=
    Nat.mul_div_cancel seconds (by decide)
  simp only [visitSteps, log, Step.outcome, Step.moved, hseconds]
  rfl

open Token (visit verify_visit verify_of_verify)

/-- A visitor's token past its end, and still a while later. -/
theorem isFinal_of_steps_visit :
    InRange (.ofInstant Instant.epoch) (visitSteps (Token.sign visit [7]) 1000) ∧
      ((clocks (.ofInstant Instant.epoch) (visitSteps (Token.sign visit [7]) 1000)).Pairwise
        fun a b => a.now ≤ b.now) ∧
      log ⟨[7], "gatehouse", 1, .system⟩ ⟨0, 0⟩ (.ofInstant Instant.epoch)
          (visitSteps (Token.sign visit [7]) 1000) =
        [(⟨0⟩, .verified (Token.sign visit [7]) (.ok visit)), (⟨0⟩, .advanced),
          (⟨61⟩, .verified (Token.sign visit [7]) (.error .expired)), (⟨61⟩, .advanced),
          (⟨1061⟩, .verified (Token.sign visit [7]) (.error .expired))] := by
  have hrange : InRange (.ofInstant Instant.epoch) (visitSteps (Token.sign visit [7]) 1000) :=
    inRange_of_instant (by decide) (by decide)
  refine ⟨hrange, (isFinal_of_steps ⟨[7], "gatehouse", 1, .system⟩ ⟨0, 0⟩ _ _).forward hrange, ?_⟩
  rw [log_visitSteps]
  simp only [verify_of_verify verify_visit]
  rfl

/-- The same token a second behind the last instant. The clock reads as the start of 1970 there, and
the token is accepted again. -/
theorem accepted_behind_lastSecond :
    AcceptedAgain (log ⟨[7], "gatehouse", 1, .system⟩ ⟨0, 0⟩ (.ofInstant Instant.epoch)
        (visitSteps (Token.sign visit [7]) 8210266876739)) (Token.sign visit [7]) visit visit
        ⟨0⟩ ⟨61⟩ ⟨8210266876800⟩ ∧
      (⟨61⟩ : ManualClock).now = ⟨61, 0⟩ ∧
      (⟨8210266876800⟩ : ManualClock).now = Instant.epoch := by
  have hlog : log ⟨[7], "gatehouse", 1, .system⟩ ⟨0, 0⟩ (.ofInstant Instant.epoch)
      (visitSteps (Token.sign visit [7]) 8210266876739) =
        [(⟨0⟩, .verified (Token.sign visit [7]) (.ok visit)), (⟨0⟩, .advanced),
          (⟨61⟩, .verified (Token.sign visit [7]) (.error .expired)), (⟨61⟩, .advanced),
          (⟨8210266876800⟩, .verified (Token.sign visit [7]) (.ok visit))] := by
    rw [log_visitSteps]
    simp only [verify_of_verify verify_visit]
    rfl
  refine ⟨?_, by decide, by decide⟩
  rw [AcceptedAgain, hlog]
  exact ((((List.Sublist.refl _).cons _).cons_cons _).cons _).cons_cons _

end TokenCodec

end Gatehouse
