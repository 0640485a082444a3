import Gatehouse.Server.Serve
import Mathlib.Data.List.Induction
import Mathlib.Tactic.SplitIfs

/-!
# Shutting down

Whatever a server finds when it looks at the world, serving takes one of five courses
(`Serve.Course`) : it goes on, it drains, it has ended by itself before or after it was cancelled,
or it has been cut off. A look leads from one course to another or stays in it
(`Serve.On.step`), so every run is on one of them (`Serve.on_run`).

What is published and done on the way can be read off the course (`Serve.isOrderly_run`) : life only
goes forward and ends stopped, and requests are cut off exactly if the server was cancelled and the
grace period ended the wait for the serving (`Look.TimeOut`).
-/

namespace Gatehouse

/-! ## Looks -/

namespace Look

/-- The look finds nothing to do for a server that serves. -/
structure IsIdle (l : Look) : Prop where
  ended : l.ended = none
  cancelled : l.cancelled = false

/-- The look takes up that the server is cancelled, also if the serving has ended at the same
time. -/
structure TakesUp (l : Look) : Prop where
  cancelled : l.cancelled = true
  first : l.ended = none ∨ l.cancelledFirst = true

/-- The look finds that a server that drains has to wait on. -/
structure Waits (l : Look) : Prop where
  ended : l.ended = none
  graceOver : l.graceOver = false

/-- The look finds that the grace period is over, and the serving has not ended. -/
structure RunsOut (l : Look) : Prop where
  ended : l.ended = none
  graceOver : l.graceOver = true

/-- The server is cancelled, and the grace period ends the wait for the serving. -/
def TimeOut (looks : List Look) : Prop :=
  ∃ idle taken waiting late rest, looks = idle ++ taken :: (waiting ++ late :: rest) ∧
    (∀ l ∈ idle, l.IsIdle) ∧ taken.TakesUp ∧ (∀ l ∈ waiting, l.Waits) ∧ late.RunsOut

end Look

/-! ## Life -/

namespace Lifecycle

variable {a b c : Lifecycle}

theorem isAhead_trans (hab : b.isAhead a = true) (hbc : c.isAhead b = true) :
    c.isAhead a = true := by
  revert hab hbc
  cases a <;> cases b <;> cases c <;> decide

theorem advance_forward (a b : Lifecycle) : a.advance b = a ∨ (a.advance b).isAhead a = true := by
  rw [advance]
  split_ifs with h
  · exact Or.inr h
  · exact Or.inl rfl

end Lifecycle

namespace Serve

variable {s : Serve} {l : Look} {looks : List Look}

/-! ## What a look does -/

/-- What comes of serving that ends by itself. -/
def outcome : Except String Unit → Except ServerError ServeOutcome
  | .error reason => .error (.serve reason)
  | .ok () => .ok .graceful

/-- What it does but for the log, in order. -/
def acts (s : Serve) : List ServeNotice :=
  s.notices.filter fun n => match n with
    | .logged _ => false
    | _ => true

theorem lifecycle_goOn (s : Serve) (next : Lifecycle) :
    (s.goOn next).lifecycle = s.lifecycle.advance next := by
  rw [goOn, Lifecycle.advance]
  split_ifs <;> rfl

/-- A stage that is ahead is published. -/
theorem acts_goOn {next : Lifecycle} (h : next.isAhead s.lifecycle = true) :
    (s.goOn next).acts = s.acts ++ [.published next] := by
  rw [goOn, if_pos h, acts, note, List.filter_append]
  rfl

theorem acts_log (s : Serve) (level : LogLevel) (message : String)
    (fields : List (String × Json.Value)) : (s.log level message fields).acts = s.acts := by
  rw [log, note, acts, List.filter_append]
  exact List.append_nil _

theorem lifecycle_finish (s : Serve) (result : Except String Unit) (message : String) :
    (s.finish result message).lifecycle = s.lifecycle.advance .stopped := by
  cases result <;> exact lifecycle_goOn s .stopped

theorem lifecycle_drain (s : Serve) : s.drain.lifecycle = s.lifecycle.advance .shuttingDown :=
  lifecycle_goOn s .shuttingDown

theorem lifecycle_cutOff (s : Serve) : s.cutOff.lifecycle = s.lifecycle.advance .stopped :=
  lifecycle_goOn _ .stopped

/-- It ends stopped, with what the serving has ended with. -/
theorem finish_of_isAhead (h : Lifecycle.isAhead .stopped s.lifecycle = true)
    (result : Except String Unit) (message : String) :
    (s.finish result message).phase = .done (outcome result) ∧
      (s.finish result message).lifecycle = .stopped ∧
        (s.finish result message).acts = s.acts ++ [.published .stopped] := by
  rw [lifecycle_finish, Lifecycle.advance, if_pos h]
  cases result with
  | error reason => exact ⟨rfl, rfl, acts_goOn h⟩
  | ok _ => exact ⟨rfl, rfl, (acts_log _ _ _ _).trans (acts_goOn h)⟩

/-- It publishes that it shuts down before it waits. -/
theorem drain_of_isAhead (h : Lifecycle.isAhead .shuttingDown s.lifecycle = true) :
    s.drain.phase = .draining ∧ s.drain.lifecycle = .shuttingDown ∧
      s.drain.acts = s.acts ++ [.published .shuttingDown] := by
  rw [lifecycle_drain, Lifecycle.advance, if_pos h]
  exact ⟨rfl, rfl, (acts_log _ _ _ _).trans (acts_goOn h)⟩

/-- It cuts off before it publishes that it has stopped. -/
theorem cutOff_of_isAhead (h : Lifecycle.isAhead .stopped s.lifecycle = true) :
    s.cutOff.phase = .done (.ok .forced) ∧ s.cutOff.lifecycle = .stopped ∧
      s.cutOff.acts = s.acts ++ [.cutOff, .published .stopped] := by
  have hnoted : ∀ t : Serve, (t.note .cutOff).acts = t.acts ++ [.cutOff] := fun t => by
    rw [note, acts, List.filter_append]
    rfl
  rw [lifecycle_cutOff, Lifecycle.advance, if_pos h, show s.cutOff.acts = _ from acts_goOn h,
    hnoted, acts_log, List.append_assoc]
  exact ⟨rfl, rfl, rfl⟩

/-- A server that serves stays so, takes up that it is cancelled, or ends as the serving has. -/
theorem step_of_serving (h : s.phase = .serving) (l : Look) :
    l.IsIdle ∧ s.step l = s ∨ l.TakesUp ∧ s.step l = s.drain ∨
      ∃ result message, l.ended = some result ∧ ¬l.TakesUp ∧
        s.step l = s.finish result message := by
  rw [step, h]
  cases hended : l.ended with
  | none =>
    cases hcancelled : l.cancelled with
    | false => exact Or.inl ⟨⟨hended, hcancelled⟩, rfl⟩
    | true => exact Or.inr (Or.inl ⟨⟨hcancelled, Or.inl hended⟩, rfl⟩)
  | some result =>
    simp only [Bool.and_eq_true]
    split_ifs with hfirst
    · exact Or.inr (Or.inl ⟨⟨hfirst.1, Or.inr hfirst.2⟩, rfl⟩)
    · refine Or.inr (Or.inr ⟨result, _, rfl, ?_, rfl⟩)
      rintro ⟨hcancelled, hnone | hfirst'⟩
      · rw [hended] at hnone
        cases hnone
      · exact hfirst ⟨hcancelled, hfirst'⟩

/-- A server that drains waits on, ends as the serving has, or cuts off what is left. -/
theorem step_of_draining (h : s.phase = .draining) (l : Look) :
    l.Waits ∧ s.step l = s ∨ l.RunsOut ∧ s.step l = s.cutOff ∨
      ∃ result message, l.ended = some result ∧ s.step l = s.finish result message := by
  rw [step, h]
  cases hended : l.ended with
  | none =>
    cases hgrace : l.graceOver with
    | false => exact Or.inl ⟨⟨hended, hgrace⟩, rfl⟩
    | true => exact Or.inr (Or.inl ⟨⟨hended, hgrace⟩, rfl⟩)
  | some result => exact Or.inr (Or.inr ⟨result, _, rfl, rfl⟩)

theorem step_of_done {result : Except ServerError ServeOutcome} (h : s.phase = .done result)
    (l : Look) : s.step l = s := by
  rw [step, h]

/-! ## Life goes forward -/

/-- A look makes at most one step forward in life. -/
theorem lifecycle_step (s : Serve) (l : Look) :
    (s.step l).lifecycle = s.lifecycle ∨ (s.step l).lifecycle.isAhead s.lifecycle = true := by
  have hfinish : ∀ result message, (s.finish result message).lifecycle = s.lifecycle ∨
      (s.finish result message).lifecycle.isAhead s.lifecycle = true := by
    intro result message
    rw [lifecycle_finish]
    exact s.lifecycle.advance_forward .stopped
  cases hphase : s.phase with
  | serving =>
    rcases step_of_serving hphase l with ⟨-, h⟩ | ⟨-, h⟩ | ⟨result, message, -, -, h⟩
    · exact Or.inl (congrArg lifecycle h)
    · rw [h, lifecycle_drain]
      exact s.lifecycle.advance_forward .shuttingDown
    · rw [h]
      exact hfinish result message
  | draining =>
    rcases step_of_draining hphase l with ⟨-, h⟩ | ⟨-, h⟩ | ⟨result, message, -, h⟩
    · exact Or.inl (congrArg lifecycle h)
    · rw [h, lifecycle_cutOff]
      exact s.lifecycle.advance_forward .stopped
    · rw [h]
      exact hfinish result message
  | done result => exact Or.inl (congrArg lifecycle (step_of_done hphase l))

theorem run_cons (s : Serve) (l : Look) (looks : List Look) :
    s.run (l :: looks) = (s.step l).run looks :=
  rfl

theorem run_append (s : Serve) (before after : List Look) :
    s.run (before ++ after) = (s.run before).run after :=
  List.foldl_append

/-- However many looks follow, life does not go back. -/
theorem lifecycle_run : ∀ (looks : List Look) (s : Serve),
    (s.run looks).lifecycle = s.lifecycle ∨ (s.run looks).lifecycle.isAhead s.lifecycle = true
  | [], s => Or.inl rfl
  | l :: looks, s => by
    rw [run_cons]
    rcases lifecycle_run looks (s.step l) with hrest | hrest
    · rw [hrest]
      exact lifecycle_step s l
    · rcases lifecycle_step s l with hstep | hstep
      · rw [hstep] at hrest
        exact Or.inr hrest
      · exact Or.inr (Lifecycle.isAhead_trans hstep hrest)

/-! ## Courses -/

/-- The courses that serving can take over looks, with how far it comes and what it does. -/
inductive Course : List Look → ServePhase → Lifecycle → List ServeNotice → Prop
  | serving {idle : List Look} (hidle : ∀ l ∈ idle, l.IsIdle) :
    Course idle .serving .running []
  | ended {idle rest : List Look} {l : Look} {result : Except String Unit}
    (hidle : ∀ l ∈ idle, l.IsIdle) (hended : l.ended = some result) (hfirst : ¬l.TakesUp) :
    Course (idle ++ l :: rest) (.done (outcome result)) .stopped [.published .stopped]
  | draining {idle waiting : List Look} {taken : Look} (hidle : ∀ l ∈ idle, l.IsIdle)
    (htaken : taken.TakesUp) (hwaiting : ∀ l ∈ waiting, l.Waits) :
    Course (idle ++ taken :: waiting) .draining .shuttingDown [.published .shuttingDown]
  | drained {idle waiting rest : List Look} {taken l : Look} {result : Except String Unit}
    (hidle : ∀ l ∈ idle, l.IsIdle) (htaken : taken.TakesUp) (hwaiting : ∀ l ∈ waiting, l.Waits)
    (hended : l.ended = some result) :
    Course (idle ++ taken :: (waiting ++ l :: rest)) (.done (outcome result)) .stopped
      [.published .shuttingDown, .published .stopped]
  | cutOff {idle waiting rest : List Look} {taken late : Look}
    (hidle : ∀ l ∈ idle, l.IsIdle) (htaken : taken.TakesUp) (hwaiting : ∀ l ∈ waiting, l.Waits)
    (hlate : late.RunsOut) :
    Course (idle ++ taken :: (waiting ++ late :: rest)) (.done (.ok .forced)) .stopped
      [.published .shuttingDown, .cutOff, .published .stopped]

/-- A server on a course. -/
def On (s : Serve) (looks : List Look) : Prop :=
  Course looks s.phase s.lifecycle s.acts

/-- One more look leads on. -/
theorem On.step (h : s.On looks) (l : Look) : (s.step l).On (looks ++ [l]) := by
  have hconcat : ∀ {before : List Look} {p : Look → Prop}, (∀ x ∈ before, p x) → p l →
      ∀ x ∈ before ++ [l], p x := fun hbefore hl =>
    List.forall_mem_append.mpr ⟨hbefore, List.forall_mem_singleton.mpr hl⟩
  rw [On] at h ⊢
  -- A course tells the phase, so the cases are the courses and, in each, what the look can find.
  generalize hphase : s.phase = phase, hlife : s.lifecycle = lifecycle, hacts : s.acts = acts at h
  cases h with
  | serving hidle =>
    rcases step_of_serving hphase l with
      ⟨hl, heq⟩ | ⟨hl, heq⟩ | ⟨result, message, hended, hl, heq⟩
    · rw [heq, hphase, hlife, hacts]
      exact .serving (hconcat hidle hl)
    · obtain ⟨hphase', hlife', hacts'⟩ := s.drain_of_isAhead (by rw [hlife]; rfl)
      rw [heq, hphase', hlife', hacts', hacts]
      exact .draining hidle hl nofun
    · obtain ⟨hphase', hlife', hacts'⟩ := s.finish_of_isAhead (by rw [hlife]; rfl) result message
      rw [heq, hphase', hlife', hacts', hacts]
      exact .ended hidle hended hl
  | ended hidle hended hfirst =>
    -- Behind the look that ended it nothing is looked for.
    rw [step_of_done hphase, hphase, hlife, hacts, List.append_assoc, List.cons_append]
    exact .ended hidle hended hfirst
  | draining hidle htaken hwaiting =>
    rw [List.append_assoc, List.cons_append]
    rcases step_of_draining hphase l with ⟨hl, heq⟩ | ⟨hl, heq⟩ | ⟨result, message, hended, heq⟩
    · rw [heq, hphase, hlife, hacts]
      exact .draining hidle htaken (hconcat hwaiting hl)
    · obtain ⟨hphase', hlife', hacts'⟩ := s.cutOff_of_isAhead (by rw [hlife]; rfl)
      rw [heq, hphase', hlife', hacts', hacts]
      exact .cutOff hidle htaken hwaiting hl
    · obtain ⟨hphase', hlife', hacts'⟩ := s.finish_of_isAhead (by rw [hlife]; rfl) result message
      rw [heq, hphase', hlife', hacts', hacts]
      exact .drained hidle htaken hwaiting hended
  | drained hidle htaken hwaiting hended =>
    rw [step_of_done hphase, hphase, hlife, hacts, List.append_assoc, List.cons_append,
      List.append_assoc, List.cons_append]
    exact .drained hidle htaken hwaiting hended
  | cutOff hidle htaken hwaiting hlate =>
    rw [step_of_done hphase, hphase, hlife, hacts, List.append_assoc, List.cons_append,
      List.append_assoc, List.cons_append]
    exact .cutOff hidle htaken hwaiting hlate

/-- Every run is on a course. -/
theorem on_run (grace : Span) (looks : List Look) : (({ grace } : Serve).run looks).On looks := by
  induction looks using List.reverseRecOn with
  | nil => exact .serving nofun
  | append_singleton looks l ih =>
    rw [run_append]
    exact ih.step l

/-! ## What ends it -/

/-- Looks at which it stays as it is. -/
theorem run_of_stays (h : ∀ l ∈ looks, s.step l = s) : s.run looks = s := by
  induction looks with
  | nil => rfl
  | cons l looks ih =>
    obtain ⟨hl, hlooks⟩ := List.forall_mem_cons.mp h
    rw [run_cons, hl]
    exact ih hlooks

theorem step_of_isIdle (h : s.phase = .serving) (hl : l.IsIdle) : s.step l = s := by
  rw [step, h]
  simp only [hl.ended, hl.cancelled, Bool.false_eq_true, if_false]

/-- A service that is told to stop begins to drain. -/
theorem step_of_takesUp (h : s.phase = .serving) (hl : l.TakesUp) : s.step l = s.drain := by
  rcases step_of_serving h l with ⟨hidle, -⟩ | ⟨-, heq⟩ | ⟨-, -, -, hnot, -⟩
  · exact absurd (hl.cancelled.symm.trans hidle.cancelled) (by decide)
  · exact heq
  · exact absurd hl hnot

theorem step_of_waits (h : s.phase = .draining) (hl : l.Waits) : s.step l = s := by
  rw [step, h]
  simp only [hl.ended, hl.graceOver, Bool.false_eq_true, if_false]

/-- What is open when the time is up is cut off. -/
theorem step_of_runsOut (h : s.phase = .draining) (hl : l.RunsOut) : s.step l = s.cutOff := by
  rw [step, h]
  simp only [hl.ended, hl.graceOver, if_true]

/-- When the grace period ends the wait, it is cut off. -/
theorem run_of_timeOut (grace : Span) (h : Look.TimeOut looks) :
    ({ grace } : Serve).run looks = ({ grace } : Serve).drain.cutOff := by
  obtain ⟨idle, taken, waiting, late, rest, rfl, hidle, htaken, hwaiting, hlate⟩ := h
  have hserving : ({ grace } : Serve).phase = .serving := rfl
  have hdraining : ({ grace } : Serve).drain.phase = .draining := rfl
  rw [run_append, run_of_stays fun l hl => step_of_isIdle hserving (hidle l hl), run_cons,
    step_of_takesUp hserving htaken, run_append,
    run_of_stays fun l hl => step_of_waits hdraining (hwaiting l hl), run_cons,
    step_of_runsOut hdraining hlate]
  exact run_of_stays fun l _ => step_of_done rfl l

/-! ## What a course tells -/

namespace Course

variable {phase : ServePhase} {lifecycle : Lifecycle} {acts : List ServeNotice}

theorem lifecycle_eq (h : Course looks phase lifecycle acts)
    {result : Except ServerError ServeOutcome} (hphase : phase = .done result) :
    lifecycle = .stopped := by
  cases h with
  | serving hidle => cases hphase
  | draining hidle htaken hwaiting => cases hphase
  | ended hidle hended hfirst => rfl
  | drained hidle htaken hwaiting hended => rfl
  | cutOff hidle htaken hwaiting hlate => rfl

/-- An error is that of the listener, and none is made up. -/
theorem error (h : Course looks phase lifecycle acts) {e : ServerError}
    (hphase : phase = .done (.error e)) :
    ∃ reason, e = .serve reason ∧ ∃ l ∈ looks, l.ended = some (.error reason) := by
  have houtcome : ∀ {result : Except String Unit}, outcome result = .error e →
      ∃ reason, e = .serve reason ∧ result = .error reason := by
    rintro (reason | _) h
    · exact ⟨reason, (Except.error.inj h).symm, rfl⟩
    · cases h
  cases h with
  | serving hidle => cases hphase
  | draining hidle htaken hwaiting => cases hphase
  | cutOff hidle htaken hwaiting hlate => cases hphase
  | ended hidle hended hfirst =>
    obtain ⟨reason, he, rfl⟩ := houtcome (ServePhase.done.inj hphase)
    exact ⟨reason, he, _, by simp, hended⟩
  | drained hidle htaken hwaiting hended =>
    obtain ⟨reason, he, rfl⟩ := houtcome (ServePhase.done.inj hphase)
    exact ⟨reason, he, _, by simp, hended⟩

/-- Only where time has run out is anything cut off. -/
theorem timeOut (h : Course looks phase lifecycle acts)
    (hforced : phase = .done (.ok .forced) ∨ .cutOff ∈ acts) : Look.TimeOut looks := by
  have houtcome : ∀ result : Except String Unit, outcome result ≠ .ok .forced := by
    rintro (reason | _) h <;> cases h
  cases h with
  | cutOff hidle htaken hwaiting hlate =>
    exact ⟨_, _, _, _, _, rfl, hidle, htaken, hwaiting, hlate⟩
  | serving hidle => simp at hforced
  | draining hidle htaken hwaiting => simp at hforced
  | ended hidle hended hfirst => simp [houtcome] at hforced
  | drained hidle htaken hwaiting hended => simp [houtcome] at hforced

end Course

/-- The states of life that are published among what is done. -/
def publishedIn (acts : List ServeNotice) : List Lifecycle :=
  acts.filterMap fun n => match n with
    | .published l => some l
    | _ => none

/-- What has been published is among what has been done. -/
theorem published_eq (s : Serve) : s.published = publishedIn s.acts := by
  rw [publishedIn, acts, List.filterMap_filter, published]
  congr 1
  funext n
  cases n <;> rfl

theorem hasCutOff_iff (s : Serve) : s.hasCutOff = true ↔ .cutOff ∈ s.acts := by
  rw [hasCutOff, List.any_eq_true, acts]
  constructor
  · rintro ⟨n, hn, hcut⟩
    cases n with
    | cutOff => exact List.mem_filter.mpr ⟨hn, rfl⟩
    | published l => cases hcut
    | logged e => cases hcut
  · intro h
    exact ⟨.cutOff, (List.mem_filter.mp h).1, rfl⟩

/-- Stages are published in order, and the last of them is where the service is. -/
theorem Course.published {phase : ServePhase} {lifecycle : Lifecycle} {acts : List ServeNotice}
    (h : Course looks phase lifecycle acts) :
    List.Sublist (.running :: publishedIn acts) [.running, .shuttingDown, .stopped] ∧
      (.running :: publishedIn acts).getLast? = some lifecycle := by
  cases h <;> exact ⟨by decide, rfl⟩

/-! ## The protocol -/

/-- What a server that has looked at the world `looks` keeps to. -/
structure IsOrderly (looks : List Look) (s : Serve) : Prop where
  /-- What is published leads forward, and to where it is in its life. -/
  published : List.Sublist (.running :: s.published) [.running, .shuttingDown, .stopped]
  last : (.running :: s.published).getLast? = some s.lifecycle
  forward : ∀ more, (s.run more).lifecycle = s.lifecycle ∨
    (s.run more).lifecycle.isAhead s.lifecycle = true
  /-- However it ends, it has stopped. -/
  stopped : ∀ result, s.result? = some result → s.lifecycle = .stopped
  /-- It fails only if the serving has failed. -/
  error : ∀ e, s.result? = some (.error e) →
    ∃ reason, e = .serve reason ∧ ∃ l ∈ looks, l.ended = some (.error reason)
  /-- It ends by force exactly if it is cancelled and the grace period ends the wait, and exactly
  then it cuts off requests, between the two last states of its life. -/
  forced : s.result? = some (.ok .forced) ↔ Look.TimeOut looks
  cutOff : s.hasCutOff = true ↔ Look.TimeOut looks
  order : Look.TimeOut looks →
    s.acts = [.published .shuttingDown, .cutOff, .published .stopped]

theorem phase_of_result? {result : Except ServerError ServeOutcome} :
    s.result? = some result ↔ s.phase = .done result := by
  rw [result?]
  cases s.phase <;> simp

/-- Whatever there is to find, in whatever order, and whatever is taken up first. -/
theorem isOrderly_run (grace : Span) (looks : List Look) :
    IsOrderly looks (({ grace } : Serve).run looks) := by
  have hcourse := on_run grace looks
  have hforced : Look.TimeOut looks → _ := run_of_timeOut grace
  obtain ⟨hphase, -, hacts⟩ := ({ grace } : Serve).drain.cutOff_of_isAhead rfl
  generalize ({ grace } : Serve).run looks = s at *
  obtain ⟨hpublished, hlast⟩ := hcourse.published
  constructor
  · rw [published_eq]
    exact hpublished
  · rw [published_eq]
    exact hlast
  · exact fun more => lifecycle_run more s
  · exact fun result h => hcourse.lifecycle_eq (phase_of_result?.mp h)
  · exact fun e h => hcourse.error (phase_of_result?.mp h)
  · rw [phase_of_result?]
    exact ⟨fun h => hcourse.timeOut (Or.inl h), fun h => by rw [hforced h, hphase]⟩
  · rw [hasCutOff_iff]
    refine ⟨fun h => hcourse.timeOut (Or.inr h), fun h => ?_⟩
    rw [hforced h, hacts]
    simp
  · intro h
    rw [hforced h, hacts]
    rfl

/-- If the serving ends as the server is cancelled, it may shut down first or stop at once. -/
example :
    (({ grace := ⟨0⟩ } : Serve).run
      [{ ended := some (.ok ()), cancelled := true }, { ended := some (.ok ()) }]).published =
        [.shuttingDown, .stopped] ∧
      (({ grace := ⟨0⟩ } : Serve).run
        [{ ended := some (.ok ()), cancelled := true, cancelledFirst := false }]).published =
          [.stopped] :=
  ⟨rfl, rfl⟩

end Serve

end Gatehouse
