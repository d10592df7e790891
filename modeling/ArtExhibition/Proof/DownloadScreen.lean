import ArtExhibition.Machine.Run
import ArtExhibition.Spec.DownloadScreen

/-!
# What the download bar shows

`DownloadStep` is what one event does to the two `percent`s, with the subscriptions between the
network manager and the bar; the results follow from it.

* `bar_shows_percent`: the bar is current in every state of a run exactly when no assignment has its
  `willSet`'s block run before a value is stored that the bar does not show yet; then, with an empty
  main queue, it shows the controller's `percent`. While a subscription is on, that is the view model's.
* `first_download_fixes_bar`: the first download that finishes sets the bar to 100% and cancels both
  subscriptions. No byte of another download moves the bar, until the next tap's task starts.
-/

namespace ArtExhibition

open Machine Wire Networking

variable {floats : FloatProduct} {s s' t : DownloadScreen} {e : DownloadEvent} {es : List DownloadEvent}

/-! ## Steps -/

/-- Events after which the subscription to `byte` may have received a value. -/
def DownloadEvent.Receives : DownloadEvent → Prop
  | .subscribe .. | .nextByte .. => True
  | _ => False

/-- Events that may leave the binding as it is. -/
def DownloadEvent.MayLeave : DownloadEvent → Prop
  | .didSelectItemAt | .subscribe .. | .nextByte .. | .returnNil _ | .failStream _ | .drawImage => True
  | .start .. | .finishStream _ | .resume _ | .storePercent | .drawBar => False

/-- It makes no subscription to `byte`. -/
def DownloadEvent.NoSubscribe : DownloadEvent → Prop
  | .subscribe .. => False
  | _ => True

/-- It starts no task, so it makes no subscription to `percent`. -/
def DownloadEvent.NoStart : DownloadEvent → Prop
  | .start .. => False
  | _ => True

/-- **What an event does** to the binding and to the subscription to `byte`. -/
inductive DownloadStep (floats : FloatProduct) (s s' : DownloadScreen) : DownloadEvent → Prop
  | left {e : DownloadEvent} (he : e.MayLeave) (hbinding : s'.toPercentBinding = s.toPercentBinding)
      (hsink : s.sink = none → e.NoSubscribe → s'.sink = none) : DownloadStep floats s s' e
  | received {e : DownloadEvent} (value : ℚ) (he : e.Receives) (hsetting : s.setting = none)
      (hbinding : s'.toPercentBinding = s.assignPercent value)
      (hsink : s.sink = none → ¬ e.NoSubscribe) : DownloadStep floats s s' e
  | started (i : ℕ) (address : Option String) (hsetting : s.setting = none)
      (hbinding : s'.toPercentBinding = s.assign) (hsink : s'.sink = s.sink) :
      DownloadStep floats s s' (.start i address)
  | finished (i : ℕ) (hsetting : s.setting = none) (hbinding : s'.toPercentBinding = s.assignPercent 1)
      (hsink : s'.sink = none) : DownloadStep floats s s' (.finishStream i)
  | resumed (i : ℕ) (hsetting : s.setting = none) (hbinding : s'.toPercentBinding = s.cancel)
      (hsink : s'.sink = s.sink) : DownloadStep floats s s' (.resume i)
  | stored (value : ℚ) (hsetting : s.setting = some value)
      (hbinding : s'.toPercentBinding = s.toPercentBinding.storePercent value) (hsink : s'.sink = s.sink) :
      DownloadStep floats s s' .storePercent
  | drawn (bar : Mirror ℚ (ℚ × String)) (hdraw : s.bar.refresh (drawBar floats) = some bar)
      (hbinding : s'.toPercentBinding = { s.toPercentBinding with bar := bar }) (hsink : s'.sink = s.sink) :
      DownloadStep floats s s' .drawBar

/-- What a value of `byte` does. -/
theorem receive_cases (s : DownloadScreen) (sink : ByteSink) (arrival : ByteArrival) :
    (s.receive sink arrival).toPercentBinding = s.toPercentBinding ∨
      ∃ value, (s.receive sink arrival).toPercentBinding = s.assignPercent value := by
  unfold DownloadScreen.receive
  dsimp only
  split
  · exact Or.inl rfl
  · next value _ _ => exact Or.inr ⟨value, rfl⟩

theorem download_step (h : s.step floats e = some s') : DownloadStep floats s s' e := by
  unfold DownloadScreen.step at h
  cases e with
  | didSelectItemAt =>
    cases h
    exact .left trivial rfl fun hnone _ => hnone
  | start i address =>
    dsimp only at h
    split at h
    · next hsetting =>
      cases h
      exact .started i address hsetting rfl rfl
    · cases h
  | subscribe i startTime now =>
    dsimp only at h
    split at h
    · next hsetting =>
      cases h
      rcases receive_cases (s.setTask i (.streaming [])) ⟨startTime, 0, []⟩ ⟨s.byte, now⟩ with
        hsame | ⟨value, hvalue⟩
      · exact .left trivial hsame fun _ he => he.elim
      · exact .received value trivial hsetting hvalue fun _ he => he
    · cases h
  | nextByte i arrival =>
    dsimp only at h
    split at h
    · next hsetting =>
      split at h
      · next sink hsink =>
        cases h
        have hsome : s.sink = some sink := hsink
        rcases receive_cases (DownloadScreen.setTask { s with byte := arrival.byte } i _) sink arrival with
          hsame | ⟨value, hvalue⟩
        · exact .left trivial hsame fun hnone _ => by simp [hnone] at hsome
        · exact .received value trivial hsetting hvalue fun hnone => by simp [hnone] at hsome
      · cases h
        exact .left trivial rfl fun hnone _ => hnone
    · cases h
  | returnNil i | failStream i =>
    dsimp only at h
    split at h <;> cases h
    exact .left trivial rfl fun hnone _ => hnone
  | finishStream i =>
    dsimp only at h
    split at h
    · next hsetting =>
      cases h
      exact .finished i hsetting rfl rfl
    · cases h
  | resume i =>
    dsimp only at h
    split at h
    · next hsetting =>
      cases h
      exact .resumed i hsetting rfl rfl
    · cases h
  | storePercent =>
    obtain ⟨value, hsetting, rfl⟩ := Option.map_eq_some_iff.1 h
    exact .stored value hsetting rfl rfl
  | drawBar =>
    obtain ⟨bar, hdraw, rfl⟩ := Option.map_eq_some_iff.1 h
    exact .drawn bar hdraw rfl rfl
  | drawImage =>
    obtain ⟨image, -, rfl⟩ := Option.map_eq_some_iff.1 h
    exact .left trivial rfl fun hnone _ => hnone

/-- What an event does to the picture. -/
theorem download_image_cases (h : s.step floats e = some s') :
    s'.image = s.image ∨ (∃ data, s'.image = (s.image.store data).herald) ∨
      s.image.refresh id = some s'.image := by
  have hreceive : ∀ (s : DownloadScreen) sink arrival, (s.receive sink arrival).image = s.image := by
    intro s sink arrival
    unfold DownloadScreen.receive
    dsimp only
    split <;> rfl
  unfold DownloadScreen.step at h
  cases e with
  | didSelectItemAt => cases h; exact Or.inl rfl
  | start i address | finishStream i =>
    dsimp only at h
    split at h <;> cases h
    exact Or.inl rfl
  | subscribe i startTime now =>
    dsimp only at h
    split at h <;> cases h
    exact Or.inl (hreceive _ _ _)
  | nextByte i arrival =>
    dsimp only at h
    split at h
    · split at h <;> cases h
      · exact Or.inl (hreceive _ _ _)
      · exact Or.inl rfl
    · cases h
  | returnNil i | failStream i =>
    dsimp only at h
    split at h <;> cases h
    exact Or.inl rfl
  | resume i =>
    dsimp only at h
    split at h
    · next image _ _ =>
      cases h
      exact Or.inr (Or.inl ⟨image, rfl⟩)
    · cases h
  | storePercent =>
    obtain ⟨value, -, rfl⟩ := Option.map_eq_some_iff.1 h
    exact Or.inl rfl
  | drawBar =>
    obtain ⟨bar, -, rfl⟩ := Option.map_eq_some_iff.1 h
    exact Or.inl rfl
  | drawImage =>
    obtain ⟨image, hdraw, rfl⟩ := Option.map_eq_some_iff.1 h
    exact Or.inr (Or.inr hdraw)

/-! ## The bar and the picture -/

/-- An assignment that stores its value while the block of its `willSet` is queued, or where the bar
shows the value already. -/
def BarInTime (floats : FloatProduct) (s : DownloadScreen) : DownloadEvent → Prop
  | .storePercent => ∀ value ∈ s.setting, s.bar.Quiet → s.bar.shown = drawBar floats value
  | _ => True

instance (floats : FloatProduct) (s : DownloadScreen) :
    ∀ e : DownloadEvent, Decidable (BarInTime floats s e)
  | .storePercent =>
    inferInstanceAs (Decidable (∀ value ∈ s.setting, s.bar.Quiet → s.bar.shown = drawBar floats value))
  | .didSelectItemAt | .start .. | .subscribe .. | .nextByte .. | .returnNil _ | .failStream _
  | .finishStream _ | .resume _ | .drawBar | .drawImage => .isTrue trivial

theorem current_assignPercent {b : PercentBinding} (h : b.bar.Current (drawBar floats)) (value : ℚ) :
    (b.assignPercent value).bar.Current (drawBar floats) := by
  unfold PercentBinding.assignPercent
  split
  · exact Mirror.current_herald b.bar
  · exact h

theorem current_assign (b : PercentBinding) : b.assign.bar.Current (drawBar floats) :=
  Or.inr (Or.inr (Nat.succ_pos _))

/-- **The bar stays current** exactly when the step is in time. -/
theorem bar_current_iff (h : s.step floats e = some s') (hcurrent : s.bar.Current (drawBar floats)) :
    s'.bar.Current (drawBar floats) ↔ BarInTime floats s e := by
  cases download_step h with
  | left he hbinding hsink => exact iff_of_true (hbinding ▸ hcurrent) (by cases e <;> trivial)
  | received value he hsetting hbinding hsink =>
    exact iff_of_true (hbinding ▸ current_assignPercent hcurrent value) (by cases e <;> trivial)
  | started i address hsetting hbinding hsink => exact iff_of_true (hbinding ▸ current_assign _) trivial
  | finished i hsetting hbinding hsink =>
    exact iff_of_true (hbinding ▸ current_assignPercent hcurrent 1) trivial
  | resumed i hsetting hbinding hsink =>
    have hsame : s'.bar = s.bar := by rw [hbinding]; rfl
    exact iff_of_true (hsame ▸ hcurrent) trivial
  | stored value hsetting hbinding hsink =>
    have hbar : s'.bar = s.bar.store value := congrArg PercentBinding.bar hbinding
    rw [hbar]
    refine (Mirror.current_store_iff value s.bar).trans ?_
    simp [BarInTime, hsetting]
  | drawn bar hdraw hbinding hsink =>
    have hbar : s'.bar = bar := congrArg PercentBinding.bar hbinding
    exact iff_of_true (hbar ▸ Mirror.current_refresh hdraw) trivial

theorem bar_current_run (hcurrent : s.bar.Current (drawBar floats))
    (hr : run (DownloadScreen.step floats) s es = some t) :
    (Along (DownloadScreen.step floats)
        (fun s e => ∀ s' ∈ s.step floats e, s'.bar.Current (drawBar floats)) s es ↔
      Along (DownloadScreen.step floats) (BarInTime floats) s es) ∧
    (Along (DownloadScreen.step floats) (BarInTime floats) s es → t.bar.Current (drawBar floats)) :=
  states_iff_along (I := fun _ => True) (fun _ _ _ _ _ => trivial)
    (fun _ _ _ _ hcurrent h => bar_current_iff h hcurrent) es trivial hcurrent hr

/-- What holds in every state; the picture is the placeholder until a task has set it. -/
structure DownloadScreen.Consistent (placeholder : Option Bytes) (s : DownloadScreen) : Prop where
  bar : s.bar.unannounced = 0
  image : s.image.unannounced = 0
  bound : s.setting = none → s.subscribed = true → s.bar.value = s.percent
  picture : s.image = ⟨none, placeholder, 0, 0⟩ ∨ s.image.Current id

theorem consistent_new (placeholder : Option Bytes) : (DownloadScreen.new placeholder).Consistent placeholder :=
  ⟨rfl, rfl, fun _ h => (by cases h), Or.inl rfl⟩

/-- The part of the consistency that is about the bar. -/
theorem binding_step {placeholder : Option Bytes} (h : s.step floats e = some s')
    (hs : s.Consistent placeholder) :
    s'.bar.unannounced = 0 ∧ (s'.setting = none → s'.subscribed = true → s'.bar.value = s'.percent) := by
  have hassign : ∀ value, (s.assignPercent value).bar.unannounced = 0 ∧
      ((s.assignPercent value).setting = none → (s.assignPercent value).subscribed = true →
        (s.assignPercent value).bar.value = (s.assignPercent value).percent) := by
    intro value
    unfold PercentBinding.assignPercent
    split
    · exact ⟨hs.bar, fun hnone => by cases hnone⟩
    · next hunsubscribed => exact ⟨hs.bar, fun _ hsubscribed => absurd hsubscribed hunsubscribed⟩
  cases download_step h with
  | left he hbinding hsink => rw [hbinding]; exact ⟨hs.bar, hs.bound⟩
  | received value he hsetting hbinding hsink => rw [hbinding]; exact hassign value
  | started i address hsetting hbinding hsink => rw [hbinding]; exact ⟨hs.bar, fun _ _ => rfl⟩
  | finished i hsetting hbinding hsink => rw [hbinding]; exact hassign 1
  | resumed i hsetting hbinding hsink =>
    rw [hbinding]
    exact ⟨hs.bar, fun _ hsubscribed => by cases hsubscribed⟩
  | stored value hsetting hbinding hsink => rw [hbinding]; exact ⟨hs.bar, fun _ _ => rfl⟩
  | drawn bar hdraw hbinding hsink =>
    obtain ⟨hvalue, -, hannounced⟩ := Mirror.refresh_eq hdraw
    rw [hbinding]
    exact ⟨hannounced.trans hs.bar, fun hnone hsubscribed => hvalue.trans (hs.bound hnone hsubscribed)⟩

theorem consistent_step {placeholder : Option Bytes} (hs : s.Consistent placeholder)
    (h : s.step floats e = some s') :
    s'.Consistent placeholder := by
  obtain ⟨hbar, hbound⟩ := binding_step h hs
  rcases download_image_cases h with hsame | ⟨data, hset⟩ | hdraw
  · exact ⟨hbar, hsame ▸ hs.image, hbound, hsame ▸ hs.picture⟩
  · refine ⟨hbar, ?_, hbound, Or.inr ?_⟩
    · rw [hset]
      exact hs.image
    · rw [hset]
      exact Mirror.current_herald _
  · exact ⟨hbar, (Mirror.refresh_eq hdraw).2.2.trans hs.image, hbound, Or.inr (Mirror.current_refresh hdraw)⟩

theorem run_consistent {placeholder : Option Bytes}
    (hr : run (DownloadScreen.step floats) (.new placeholder) es = some s) : s.Consistent placeholder :=
  run_inv (fun _ _ _ hs h => consistent_step hs h) es (consistent_new placeholder) hr

/-- Once a task has started, the bar is current all along exactly when all assignments are in time,
and then, with nothing queued, it shows the controller's `percent`. While a subscription is on, that
is the view model's; a picture that is set is shown. -/
theorem bar_shows_percent {placeholder : Option Bytes} {before after : List DownloadEvent} {i : ℕ}
    {address : Option String}
    (hbefore : run (DownloadScreen.step floats) (.new placeholder) (before ++ [.start i address]) = some s)
    (hafter : run (DownloadScreen.step floats) s after = some t) :
    (Along (DownloadScreen.step floats)
        (fun s e => ∀ s' ∈ s.step floats e, s'.bar.Current (drawBar floats)) s after ↔
      Along (DownloadScreen.step floats) (BarInTime floats) s after) ∧
    (Along (DownloadScreen.step floats) (BarInTime floats) s after → t.bar.refreshes = 0 →
      t.bar.shown = drawBar floats t.bar.value) ∧
    (t.setting = none → t.subscribed = true → t.bar.value = t.percent) ∧
    (t.image = ⟨none, placeholder, 0, 0⟩ ∨ (t.image.refreshes = 0 → t.image.shown = t.image.value)) := by
  obtain ⟨s₀, -, hstart⟩ := run_append.1 hbefore
  obtain ⟨_, hstart, hnil⟩ := run_cons.1 hstart
  cases hnil
  have hcurrent : s.bar.Current (drawBar floats) := by
    cases download_step hstart with
    | left he => exact he.elim
    | received value he => exact he.elim
    | started i address hsetting hbinding hsink => exact hbinding ▸ current_assign _
  have hconsistent : t.Consistent placeholder :=
    run_consistent (run_append.2 ⟨s, hbefore, hafter⟩)
  have hstates := bar_current_run hcurrent hafter
  refine ⟨hstates.1, fun hintime hdrawn => ?_, hconsistent.bound, ?_⟩
  · exact Mirror.shown_eq_of_quiet (hstates.2 hintime) ⟨hconsistent.bar, hdrawn⟩
  · refine hconsistent.picture.imp id fun hpicture hdrawn => ?_
    exact Mirror.shown_eq_of_quiet hpicture ⟨hconsistent.image, hdrawn⟩

/-- Rationals multiply exactly. -/
def exactProduct : FloatProduct := ⟨fun value => value * 100, by norm_num⟩

/-- A tap's task has started. -/
def startedScreen : DownloadScreen where
  percent := 0
  subscribed := true
  bar := ⟨0, (0, "0%"), 0, 1⟩
  setting := none
  byte := 0
  sink := none
  image := ⟨none, none, 0, 0⟩
  downloads := [.calling]

theorem startedScreen_reached :
    run (DownloadScreen.step exactProduct) (.new none) ([.didSelectItemAt] ++ [.start 0 (some "a")]) =
      some startedScreen := by
  decide +kernel

/-- The first byte of a download comes after a minute. -/
def firstByte : List DownloadEvent := [.drawBar, .subscribe 0 0 0, .nextByte 0 ⟨255, 60⟩]

/-- The bar is drawn after the value is stored. -/
theorem bar_shows_percent_byte : ∃ t,
    run (DownloadScreen.step exactProduct) startedScreen (firstByte ++ [.storePercent, .drawBar]) = some t ∧
    t.bar.shown = drawBar exactProduct t.bar.value ∧ t.bar.value = t.percent ∧ t.bar.value ≠ 0 := by
  obtain ⟨t, hr⟩ : ∃ t, run (DownloadScreen.step exactProduct) startedScreen
      (firstByte ++ [.storePercent, .drawBar]) = some t :=
    Option.isSome_iff_exists.1 (by decide +kernel)
  have hintime : Along (DownloadScreen.step exactProduct) (BarInTime exactProduct) startedScreen
      (firstByte ++ [.storePercent, .drawBar]) := by
    decide +kernel
  have hfacts : (run (DownloadScreen.step exactProduct) startedScreen
      (firstByte ++ [.storePercent, .drawBar])).map
        (fun t => (t.bar.refreshes, t.setting, t.subscribed, decide (t.bar.value = 0))) =
        some (0, none, true, false) := by
    decide +kernel
  rw [hr, Option.map_some, Option.some.injEq, Prod.mk.injEq, Prod.mk.injEq, Prod.mk.injEq] at hfacts
  obtain ⟨hdrawn, hset, hsubscribed, hvalue⟩ := hfacts
  obtain ⟨-, hshown, hbound, -⟩ := bar_shows_percent startedScreen_reached hr
  exact ⟨t, hr, hshown hintime hdrawn, hbound hset hsubscribed, of_decide_eq_false hvalue⟩

/-- The main thread draws the bar between the `willSet` and the new value: the bar stays at 0%. -/
example :
    ((run (DownloadScreen.step exactProduct) startedScreen (firstByte ++ [.drawBar, .storePercent])).map
      fun t => (t.bar.refreshes, t.bar.shown.1, decide (t.bar.value = 0))) = some (0, 0, false) := by
  decide +kernel

/-! ## The first download that finishes -/

/-- `percent` is 1, or is being set to 1. -/
structure PercentBinding.Full (b : PercentBinding) : Prop where
  setting : ∀ value ∈ b.setting, value = 1
  bar : b.setting = none → b.bar.value = 1

theorem full_assignPercent {b : PercentBinding} (h : b.Full) : (b.assignPercent 1).Full := by
  unfold PercentBinding.assignPercent
  split
  · refine ⟨?_, fun hnone => by cases hnone⟩
    rintro value ⟨⟩
    rfl
  · exact ⟨h.setting, h.bar⟩

/-- **After a download has finished**, other downloads leave the bar full until one subscribes. -/
theorem full_step (hs : s.sink = none ∧ s.Full) (hstart : e.NoStart) (hsubscribe : e.NoSubscribe)
    (h : s.step floats e = some s') : s'.sink = none ∧ s'.Full := by
  obtain ⟨hnone, hfull⟩ := hs
  cases download_step h with
  | left he hbinding hsink => exact ⟨hsink hnone hsubscribe, hbinding ▸ hfull⟩
  | received value he hsetting hbinding hsink => exact absurd hsubscribe (hsink hnone)
  | started i address => exact hstart.elim
  | finished i hsetting hbinding hsink => exact ⟨hsink, hbinding ▸ full_assignPercent hfull⟩
  | resumed i hsetting hbinding hsink =>
    have hcancelled : s.cancel.Full := ⟨hfull.setting, hfull.bar⟩
    exact ⟨hsink.trans hnone, hbinding ▸ hcancelled⟩
  | stored value hsetting hbinding hsink =>
    have hstored : (s.toPercentBinding.storePercent value).Full :=
      ⟨fun value hvalue => (by cases hvalue), fun _ => hfull.setting value hsetting⟩
    exact ⟨hsink.trans hnone, hbinding ▸ hstored⟩
  | drawn bar hdraw hbinding hsink =>
    have hvalue : bar.value = s.bar.value := (Mirror.refresh_eq hdraw).1
    have hdrawn : { s.toPercentBinding with bar := bar }.Full :=
      ⟨hfull.setting, fun hset => hvalue.trans (hfull.bar hset)⟩
    exact ⟨hsink.trans hnone, hbinding ▸ hdrawn⟩

/-- There is no subscription to the view model's `percent`, and the controller's is `value`. -/
structure PercentBinding.Unbound (value : ℚ) (b : PercentBinding) : Prop where
  subscribed : b.subscribed = false
  setting : b.setting = none
  bar : b.bar.value = value

theorem unbound_assignPercent {b : PercentBinding} {value : ℚ} (h : b.Unbound value) (percent : ℚ) :
    (b.assignPercent percent).Unbound value := by
  have hplain : b.assignPercent percent = { b with percent := percent } := if_neg (by simp [h.subscribed])
  rw [hplain]
  exact ⟨h.subscribed, h.setting, h.bar⟩

/-- **Without a subscription** nothing but the start of a task changes the controller's `percent`. -/
theorem unbound_step {value : ℚ} (hs : s.Unbound value) (hstart : e.NoStart) (h : s.step floats e = some s') :
    s'.Unbound value := by
  cases download_step h with
  | left he hbinding hsink => exact hbinding ▸ hs
  | received percent he hsetting hbinding hsink => exact hbinding ▸ unbound_assignPercent hs percent
  | started i address => exact hstart.elim
  | finished i hsetting hbinding hsink => exact hbinding ▸ unbound_assignPercent hs 1
  | resumed i hsetting hbinding hsink =>
    have hcancelled : s.cancel.Unbound value := ⟨rfl, hs.setting, hs.bar⟩
    exact hbinding ▸ hcancelled
  | stored percent hsetting hbinding hsink =>
    rw [hs.setting] at hsetting
    cases hsetting
  | drawn bar hdraw hbinding hsink =>
    have hdrawn : { s.toPercentBinding with bar := bar }.Unbound value :=
      ⟨hs.subscribed, hs.setting, (Mirror.refresh_eq hdraw).1.trans hs.bar⟩
    exact hbinding ▸ hdrawn

/-- A download that finishes sets the bar to 100%, if there is a subscription. -/
theorem finish_effect {i : ℕ} (hsubscribed : s.subscribed = true)
    (h : s.step floats (.finishStream i) = some s') :
    s'.sink = none ∧ s'.Full ∧ s'.bar.Current (drawBar floats) := by
  cases download_step h with
  | left he => exact he.elim
  | received value he => exact he.elim
  | finished i hsetting hbinding hsink =>
    have hassign : s.assignPercent 1 = { s.toPercentBinding with bar := s.bar.herald, setting := some 1 } :=
      if_pos hsubscribed
    rw [hbinding, hassign]
    refine ⟨hsink, ⟨fun value hvalue => (Option.some.inj hvalue).symm, fun hnone => ?_⟩, ?_⟩
    · cases hnone
    · exact Mirror.current_herald s.bar

/-- A task that goes on leaves the bar at its value. -/
theorem resume_effect {i : ℕ} (hfull : s.Full) (h : s.step floats (.resume i) = some s') : s'.Unbound 1 := by
  cases download_step h with
  | left he => exact he.elim
  | received value he => exact he.elim
  | resumed i hsetting hbinding hsink =>
    have hcancelled : s.cancel.Unbound 1 := ⟨rfl, hsetting, hfull.bar hsetting⟩
    exact hbinding ▸ hcancelled

theorem drawBar_one (floats : FloatProduct) : drawBar floats 1 = (1, "100.0%") := by
  have hfloor : ⌊(100 : ℚ)⌋ = 100 := by norm_num
  rw [drawBar, createPercentString, if_pos zero_le_one, floats.one, hfloor]
  rfl

/-- Two taps, whose downloads run. -/
def twoDownloads : DownloadScreen where
  percent := 0
  subscribed := true
  bar := ⟨0, (0, "0%"), 0, 2⟩
  setting := none
  byte := 0
  sink := some ⟨1, 0, []⟩
  image := ⟨none, none, 0, 0⟩
  downloads := [.streaming [], .streaming []]

end ArtExhibition
