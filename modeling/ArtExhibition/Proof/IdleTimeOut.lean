import Mathlib.Algebra.Order.Ring.Rat
import Mathlib.Tactic.Linarith
import ArtExhibition.Machine.Run
import ArtExhibition.Machine.Slots
import ArtExhibition.Spec.SessionTimer

/-!
# The idle time-out

`TimesOut` says of a step that the timer posts exactly when the latest touch event whose touches
had all ended was delivered 300 seconds before (`DueAt`): it fires only then and only once, and no
such moment passes without its post, neither at the start of a wait nor within it. `OneTimer`: at
most one timer is armed.

* `myApplication_times_out`: with `MyApplication` installed this holds along every run.
* `times_out_iff`: main.swift starts a plain `UIApplication`, which never sets the timer up; there
  it holds along a run exactly when the user is never idle for 300 seconds (`NeverIdle`).
-/

namespace ArtExhibition

open Machine

variable {application : ApplicationClass} {s s' : TimedApplication} {e : ApplicationEvent}

/-! ## What is due -/

/-- The delivery time of the latest touch event whose touches had all ended. -/
def latestEnded (delivered : List (ℚ × UIEvent)) : Option ℚ :=
  ((delivered.filter fun entry => entry.2.AllEnded).getLast?).map Prod.fst

/-- At this moment a post is due: that event was delivered exactly 300 seconds before. -/
def TimedApplication.DueAt (s : TimedApplication) (moment : ℚ) : Prop :=
  latestEnded s.delivered = some (moment - 300)

/-- The timer has posted at this moment. -/
def TimedApplication.PostedAt (s : TimedApplication) (moment : ℚ) : Prop :=
  (⟨moment, true⟩ : TimeOutPost) ∈ s.posts

/-- The moment passes in a wait from now on: it is the start of the wait, or comes before its end. -/
def TimedApplication.Passes (s : TimedApplication) (duration moment : ℚ) : Prop :=
  s.now ≤ moment ∧ moment < s.now + duration

instance (s : TimedApplication) (moment : ℚ) : Decidable (s.DueAt moment) := inferInstanceAs (Decidable (_ = _))

instance (s : TimedApplication) (moment : ℚ) : Decidable (s.PostedAt moment) :=
  inferInstanceAs (Decidable (_ ∈ _))

instance (s : TimedApplication) (duration moment : ℚ) : Decidable (s.Passes duration moment) :=
  inferInstanceAs (Decidable (_ ∧ _))

/-- At most one timer is armed. -/
def TimedApplication.OneTimer (s : TimedApplication) : Prop := s.session.scheduled.length ≤ 1

/-- **The timer posts exactly when it is due**: at a fire, and at every moment that passes. -/
def TimesOut (s : TimedApplication) : ApplicationEvent → Prop
  | .fire _ => s.DueAt s.now ∧ ¬ s.PostedAt s.now
  | .wait duration => ∀ moment, s.Passes duration moment → s.DueAt moment → s.PostedAt moment
  | .sendEvent _ | .motionEnded _ => True

/-- No moment passes at which a post is due. -/
def NeverIdle (s : TimedApplication) : ApplicationEvent → Prop
  | .wait duration => ∀ moment, s.Passes duration moment → ¬ s.DueAt moment
  | .sendEvent _ | .motionEnded _ | .fire _ => True

theorem dueAt_iff (s : TimedApplication) (moment : ℚ) :
    s.DueAt moment ↔ ∃ latest ∈ latestEnded s.delivered, moment = latest + 300 := by
  unfold TimedApplication.DueAt
  constructor
  · intro hdue
    exact ⟨moment - 300, hdue, (sub_add_cancel moment 300).symm⟩
  · rintro ⟨latest, hlatest, rfl⟩
    rw [Option.mem_def.1 hlatest, add_sub_cancel_right]

/-- Only one moment has to be looked at in a wait. -/
theorem forall_due_iff (s : TimedApplication) (duration : ℚ) (P : ℚ → Prop) :
    (∀ moment, s.Passes duration moment → s.DueAt moment → P moment) ↔
      ∀ latest ∈ latestEnded s.delivered, s.Passes duration (latest + 300) → P (latest + 300) := by
  simp only [dueAt_iff]
  constructor
  · exact fun h latest hlatest hpasses => h _ hpasses ⟨latest, hlatest, rfl⟩
  · rintro h _ hpasses ⟨latest, hlatest, rfl⟩
    exact h latest hlatest hpasses

instance (s : TimedApplication) : ∀ e : ApplicationEvent, Decidable (TimesOut s e)
  | .fire _ => inferInstanceAs (Decidable (s.DueAt s.now ∧ ¬ s.PostedAt s.now))
  | .wait duration => decidable_of_iff _ (forall_due_iff s duration s.PostedAt).symm
  | .sendEvent _ | .motionEnded _ => .isTrue trivial

instance (s : TimedApplication) : ∀ e : ApplicationEvent, Decidable (NeverIdle s e)
  | .wait duration => decidable_of_iff _ (forall_due_iff s duration fun _ => False).symm
  | .sendEvent _ | .motionEnded _ | .fire _ => .isTrue trivial

theorem latestEnded_snoc (delivered : List (ℚ × UIEvent)) (now : ℚ) (event : UIEvent) :
    latestEnded (delivered ++ [(now, event)]) =
      if event.AllEnded then some now else latestEnded delivered := by
  unfold latestEnded
  rw [List.filter_append]
  split
  · rename_i h
    simp [h]
  · rename_i h
    simp [h]

/-! ## A plain `UIApplication` -/

/-- Nothing armed, and nothing posted. -/
def TimedApplication.Silent (s : TimedApplication) : Prop := s.session.scheduled = [] ∧ s.posts = []

theorem silent_step (h : s.Silent) (hs : s.step .uiApplication e = some s') : s'.Silent := by
  cases e with
  | sendEvent event =>
    obtain rfl := Option.some.inj hs
    exact h
  | motionEnded shake =>
    obtain rfl := Option.some.inj hs
    exact h
  | wait duration =>
    simp only [TimedApplication.step] at hs
    split at hs
    · obtain rfl := Option.some.inj hs
      exact h
    · cases hs
  | fire timer =>
    simp only [TimedApplication.step, h.1, List.not_mem_nil, if_false] at hs
    cases hs

/-- **Silence is right exactly while nothing is due.** -/
theorem timesOut_silent_iff (h : s.Silent) (hs : s.step .uiApplication e = some s') :
    TimesOut s e ↔ NeverIdle s e := by
  cases e with
  | sendEvent event => exact Iff.rfl
  | motionEnded shake => exact Iff.rfl
  | wait duration =>
    have hposted : ∀ moment, ¬ s.PostedAt moment := by
      intro moment
      unfold TimedApplication.PostedAt
      rw [h.2]
      exact List.not_mem_nil
    constructor
    · exact fun hpost moment hpasses hdue => hposted moment (hpost moment hpasses hdue)
    · exact fun hidle moment hpasses hdue => absurd hdue (hidle moment hpasses)
  | fire timer =>
    simp only [TimedApplication.step, h.1, List.not_mem_nil, if_false] at hs
    cases hs

/-! ## `MyApplication` -/

/-- The loop of `sendEvent` over the touches asks whether they have all ended. -/
theorem restartTimer_iff (phases : List TouchPhase) :
    restartTimer phases = true ↔ ∀ phase ∈ phases, phase = .cancelled ∨ phase = .ended := by
  induction phases with
  | nil => simp [restartTimer]
  | cons phase phases ih =>
    rw [restartTimer, List.forall_mem_cons]
    split
    · rename_i h
      simp only [Bool.false_eq_true, false_iff, not_and]
      exact fun hphase => absurd hphase (not_or.2 h)
    · rename_i h
      rw [ih, and_iff_right]
      by_contra hphase
      exact h (not_or.1 hphase)

/-- So `sendEvent` sets the timer up for the events whose touches have all ended. -/
theorem myApplication_sendEvent_eq (session : SessionTimer) (now : ℚ) (event : UIEvent) :
    MyApplication.sendEvent session now event =
      if event.AllEnded then session.setupTimer now else session := by
  have htouches : restartTimer (event.allTouches.getD []) = true ↔
      ∀ touches ∈ event.allTouches, ∀ phase ∈ touches, phase = .cancelled ∨ phase = .ended := by
    rw [restartTimer_iff]
    cases event.allTouches <;> simp
  have hended : event.AllEnded ↔ event.type = .touches ∧ restartTimer (event.allTouches.getD []) = true :=
    and_congr_right fun _ => htouches.symm
  unfold MyApplication.sendEvent
  by_cases htype : event.type = .touches
  · rw [if_neg (not_not.2 htype)]
    exact if_congr (hended.trans (and_iff_right htype)).symm rfl rfl
  · rw [if_pos htype, if_neg fun h => htype (hended.1 h).1]

/-- **The timer of `MyApplication`**: armed for 300 seconds after the latest event whose touches had
all ended, which no post of it has followed; or not armed, and if such an event has come, so has
the post for it. -/
def TimedApplication.Timed (s : TimedApplication) : Prop :=
  (∀ post ∈ s.posts, post.time ≤ s.now) ∧
    ((∃ timer latest, s.session.timer = some timer ∧ s.session.scheduled = [(timer, latest + 300)] ∧
        latestEnded s.delivered = some latest ∧ ∀ post ∈ s.posts, post.byTimer → post.time ≤ latest) ∨
      (s.session.scheduled = [] ∧
        ∀ latest ∈ latestEnded s.delivered, (⟨latest + 300, true⟩ : TimeOutPost) ∈ s.posts))

/-- Setting the timer up replaces the one that is armed. -/
theorem setupTimer_scheduled (h : s.Timed) :
    (s.session.setupTimer s.now).timer = some s.session.next ∧
      (s.session.setupTimer s.now).scheduled = [(s.session.next, s.now + 300)] := by
  have hfive : (5 : ℚ) * 60 = 300 := by norm_num
  obtain ⟨-, ⟨timer, latest, htimer, hscheduled, -⟩ | ⟨hscheduled, -⟩⟩ := h
  · simp [SessionTimer.setupTimer, SessionTimer.invalidate, SessionTimer.scheduledTimer, htimer,
      hscheduled, hfive]
  · unfold SessionTimer.setupTimer
    split <;> simp [SessionTimer.invalidate, SessionTimer.scheduledTimer, hscheduled, hfive]

theorem timed_step (h : s.Timed) (hs : s.step .myApplication e = some s') : s'.Timed := by
  cases e with
  | sendEvent event =>
    obtain rfl := Option.some.inj hs
    refine ⟨h.1, ?_⟩
    change (∃ timer latest, (MyApplication.sendEvent s.session s.now event).timer = some timer ∧
        (MyApplication.sendEvent s.session s.now event).scheduled = [(timer, latest + 300)] ∧
        latestEnded (s.delivered ++ [(s.now, event)]) = some latest ∧ _) ∨
      (MyApplication.sendEvent s.session s.now event).scheduled = [] ∧
        ∀ latest ∈ latestEnded (s.delivered ++ [(s.now, event)]), _
    rw [myApplication_sendEvent_eq, latestEnded_snoc]
    split
    · obtain ⟨htimer, hscheduled⟩ := setupTimer_scheduled h
      exact .inl ⟨s.session.next, s.now, htimer, hscheduled, rfl, fun post hpost _ => h.1 post hpost⟩
    · exact h.2
  | motionEnded shake =>
    cases shake with
    | false =>
      obtain rfl := Option.some.inj hs
      exact h
    | true =>
      -- a shake posts too, but not by the timer
      obtain rfl : { s with posts := s.posts ++ [⟨s.now, false⟩] } = s' := Option.some.inj hs
      refine ⟨?_, ?_⟩
      · rw [forall_mem_snoc_iff]
        exact ⟨h.1, le_refl _⟩
      · rcases h.2 with ⟨timer, latest, htimer, hscheduled, hlatest, hposts⟩ | ⟨hscheduled, hposted⟩
        · refine .inl ⟨timer, latest, htimer, hscheduled, hlatest, ?_⟩
          rw [forall_mem_snoc_iff]
          exact ⟨hposts, fun hby => by cases hby⟩
        · exact .inr ⟨hscheduled, fun latest hlatest => List.mem_append_left _ (hposted latest hlatest)⟩
  | wait duration =>
    simp only [TimedApplication.step] at hs
    split at hs
    · rename_i hwait
      obtain rfl := Option.some.inj hs
      refine ⟨fun post hpost => ?_, h.2⟩
      have hle := h.1 post hpost
      have hpos := hwait.1
      change post.time ≤ s.now + duration
      linarith
    · cases hs
  | fire timer =>
    simp only [TimedApplication.step] at hs
    split at hs
    · rename_i hfire
      obtain rfl := Option.some.inj hs
      refine ⟨?_, .inr ?_⟩
      · rw [forall_mem_snoc_iff]
        exact ⟨h.1, le_refl _⟩
      · rcases h.2 with ⟨armed, latest, -, hscheduled, hlatest, -⟩ | ⟨hscheduled, -⟩
        · rw [hscheduled, List.mem_singleton, Prod.mk.injEq] at hfire
          obtain ⟨rfl, hnow⟩ := hfire
          refine ⟨by simp [SessionTimer.invalidate, hscheduled], fun latest' hlatest' => ?_⟩
          rw [hlatest, Option.mem_def, Option.some.injEq] at hlatest'
          subst hlatest'
          rw [← hnow]
          exact List.mem_append_right _ (List.mem_singleton_self _)
        · rw [hscheduled] at hfire
          cases hfire
    · cases hs

/-- At every step of a timed application the timer posts when it is due, and one timer is armed. -/
theorem timed_times_out (h : s.Timed) (hs : s.step .myApplication e = some s') : TimesOut s e := by
  cases e with
  | sendEvent event => trivial
  | motionEnded shake => trivial
  | wait duration =>
    intro moment hpasses hdue
    simp only [TimedApplication.step] at hs
    split at hs
    · rename_i hwait
      rcases h.2 with ⟨timer, latest, -, hscheduled, hlatest, -⟩ | ⟨-, hposted⟩
      · -- time does not pass the fire date
        have hdate := hwait.2 _ (hscheduled ▸ List.mem_singleton_self _)
        have hmoment := Option.some.inj (hlatest.symm.trans hdue)
        have hbefore := hpasses.2
        dsimp only at hdate
        linarith
      · have hpost := hposted _ hdue
        rwa [sub_add_cancel] at hpost
    · cases hs
  | fire timer =>
    simp only [TimedApplication.step] at hs
    split at hs
    · rename_i hfire
      rcases h.2 with ⟨armed, latest, -, hscheduled, hlatest, hposts⟩ | ⟨hscheduled, -⟩
      · rw [hscheduled, List.mem_singleton, Prod.mk.injEq] at hfire
        have hnow : s.now = latest + 300 := hfire.2
        refine ⟨?_, fun hposted => ?_⟩
        · unfold TimedApplication.DueAt
          rw [hlatest, hnow, add_sub_cancel_right]
        · have hle := hposts _ hposted rfl
          dsimp only at hle
          linarith
      · rw [hscheduled] at hfire
        cases hfire
    · cases hs

theorem timed_oneTimer (h : s.Timed) : s.OneTimer := by
  unfold TimedApplication.OneTimer
  rcases h.2 with ⟨_, _, -, hscheduled, -⟩ | ⟨hscheduled, -⟩ <;> rw [hscheduled] <;> simp

theorem timed_launch : TimedApplication.launch.Timed :=
  ⟨fun _ h => (by cases h), .inr ⟨rfl, fun _ h => by cases h⟩⟩

/-! ## Runs -/

/-- **With `MyApplication` installed the idle time-out works**, along every run. -/
theorem myApplication_times_out {es : List ApplicationEvent}
    (h : run (TimedApplication.step .myApplication) .launch es = some s) :
    Along (TimedApplication.step .myApplication) TimesOut .launch es ∧ s.OneTimer := by
  have htimed : s.Timed := run_inv (fun s e s' => timed_step) es timed_launch h
  refine ⟨along_of_run (fun s e s' hs hstep => ?_) es timed_launch h, timed_oneTimer htimed⟩
  exact ⟨timed_step hs hstep, timed_times_out hs hstep⟩

/-- **The idle time-out of the started application works exactly while the user is never idle.**
Over any events, from a launch; no timer is ever armed, and nothing ever posted. -/
theorem times_out_iff {es : List ApplicationEvent}
    (h : run (TimedApplication.step startedApplication) .launch es = some s) :
    (Along (TimedApplication.step startedApplication) TimesOut .launch es ↔
      Along (TimedApplication.step startedApplication) NeverIdle .launch es) ∧
    s.session.scheduled = [] ∧ s.posts = [] := by
  have hplain : startedApplication = .uiApplication := by decide
  rw [hplain] at h ⊢
  have hlaunch : TimedApplication.launch.Silent := ⟨rfl, rfl⟩
  exact ⟨along_iff_of_inv (fun s e s' => silent_step) (fun s e s' => timesOut_silent_iff) es hlaunch h,
    run_inv (fun s e s' => silent_step) es hlaunch h⟩

/-- A touch that begins and ends. -/
def touchRun : List ApplicationEvent :=
  [.sendEvent ⟨.touches, some [.began]⟩, .wait 1, .sendEvent ⟨.touches, some [.ended]⟩]

/-- A user who touches again in time, and shakes the device once. -/
theorem times_out_busy :
    Along (TimedApplication.step startedApplication) TimesOut .launch
      (touchRun ++ .wait 200 :: .motionEnded true :: touchRun) := by
  obtain ⟨s, h⟩ : ∃ s, run (TimedApplication.step startedApplication) .launch
      (touchRun ++ .wait 200 :: .motionEnded true :: touchRun) = some s := ⟨_, rfl⟩
  exact (times_out_iff h).1.2 (by decide +kernel)

/-- **Nothing times out.** A touch ends, and ten minutes later nothing has been posted. -/
theorem no_time_out :
    ¬ Along (TimedApplication.step startedApplication) TimesOut .launch
      (touchRun ++ [.wait 600]) := by
  decide +kernel

end ArtExhibition
