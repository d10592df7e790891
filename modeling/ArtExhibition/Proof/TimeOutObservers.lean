import Mathlib.Data.Finset.Card
import ArtExhibition.Machine.Run
import ArtExhibition.Spec.SessionTimer

/-!
# When the time-out observers are balanced

A controller registers at every appearance and its registrations go only with itself.

* `balanced_iff`: in a run every controller has one registration at most, and none off screen, exactly
  when nobody appears who is on screen and nobody disappears who is; and a post switches to the login
  screen once whenever somebody is on screen exactly when, besides, nobody appears while somebody else is
  on screen.
* `second_appearance_registered`: a controller that comes back is registered twice.
-/

namespace ArtExhibition

open Machine

variable {s s' : TimeOutObservers} {e : ViewEvent}

/-- Every controller is registered once at most, and only while it is on screen. -/
structure TimeOutObservers.Registered (s : TimeOutObservers) : Prop where
  atMostOnce : ∀ controller, s.observers.count controller ≤ 1
  onScreen : ∀ controller, controller ∉ s.onScreen → s.observers.count controller = 0

/-- And a post switches to the login screen exactly once, if anybody is on screen. -/
structure TimeOutObservers.Balanced (s : TimeOutObservers) : Prop extends s.Registered where
  switchesOnce : s.onScreen.Nonempty → s.postNotification.length = 1

/-- Whoever appears is off screen, and whoever disappears too. -/
def Unseen (s : TimeOutObservers) : ViewEvent → Prop
  | .viewDidAppear controller | .viewDidDisappear controller => controller ∉ s.onScreen
  | .viewWillDisappear _ | .deinit _ => True

/-- Whoever appears finds nobody on screen, and nobody disappears who is. -/
def Alone (s : TimeOutObservers) : ViewEvent → Prop
  | .viewDidAppear _ => s.onScreen = ∅
  | .viewDidDisappear controller => controller ∉ s.onScreen
  | .viewWillDisappear _ | .deinit _ => True

instance (s : TimeOutObservers) : ∀ e : ViewEvent, Decidable (Unseen s e)
  | .viewDidAppear controller | .viewDidDisappear controller =>
    inferInstanceAs (Decidable (controller ∉ s.onScreen))
  | .viewWillDisappear _ | .deinit _ => .isTrue trivial

instance (s : TimeOutObservers) : ∀ e : ViewEvent, Decidable (Alone s e)
  | .viewDidAppear _ => inferInstanceAs (Decidable (s.onScreen = ∅))
  | .viewDidDisappear controller => inferInstanceAs (Decidable (controller ∉ s.onScreen))
  | .viewWillDisappear _ | .deinit _ => .isTrue trivial

/-! ## Whoever is on screen is registered -/

/-- Controllers on screen are registered, and have been from their appearance on. -/
def TimeOutObservers.Seen (s : TimeOutObservers) : Prop := ∀ controller ∈ s.onScreen, controller ∈ s.observers

theorem seen_step (h : s.Seen) (hs : s.step e = some s') : s'.Seen := by
  cases e with
  | viewDidAppear controller =>
    obtain rfl := Option.some.inj hs
    intro other hother
    rcases Finset.mem_insert.1 hother with rfl | hother
    · exact List.mem_append_right _ (List.mem_singleton_self _)
    · exact List.mem_append_left _ (h other hother)
  | viewWillDisappear controller =>
    obtain rfl := Option.some.inj hs
    exact h
  | viewDidDisappear controller =>
    obtain rfl := Option.some.inj hs
    exact fun other hother => h other (Finset.mem_of_mem_erase hother)
  | deinit controller =>
    simp only [TimeOutObservers.step] at hs
    split at hs
    · cases hs
    · rename_i hoff
      obtain rfl := Option.some.inj hs
      intro other hother
      have hne : other ≠ controller := fun heq => hoff (heq ▸ hother)
      exact List.mem_filter.2 ⟨h other hother, by simpa using hne⟩

/-- Then the registered controllers are those on screen, each once. -/
theorem Registered.count_eq (hseen : s.Seen) (h : s.Registered) (controller : Nat) :
    s.observers.count controller = if controller ∈ s.onScreen then 1 else 0 := by
  split
  · rename_i hon
    have hpos := List.count_pos_iff.2 (hseen controller hon)
    have hle := h.atMostOnce controller
    omega
  · rename_i hoff
    exact h.onScreen controller hoff

/-- The count of each controller tells it all. -/
theorem registered_of_count (h : ∀ controller,
    s.observers.count controller = if controller ∈ s.onScreen then 1 else 0) : s.Registered := by
  constructor
  · intro controller
    rw [h]
    split <;> omega
  · intro controller hoff
    rw [h, if_neg hoff]

/-! ## One event -/

/-- **One event keeps the registrations right exactly when it meets the condition.** -/
theorem registered_step (hseen : s.Seen) (h : s.Registered) (hs : s.step e = some s') :
    s'.Registered ↔ Unseen s e := by
  have hcount := Registered.count_eq hseen h
  cases e with
  | viewDidAppear controller =>
    obtain rfl := Option.some.inj hs
    have happend : ∀ other, (s.observers ++ [controller]).count other =
        s.observers.count other + if other = controller then 1 else 0 := by
      intro other
      rw [List.count_append, List.count_singleton]
      exact congrArg _ (if_congr (beq_iff_eq.trans eq_comm) rfl rfl)
    constructor
    · intro h' hon
      have hle := h'.atMostOnce controller
      change (s.observers ++ [controller]).count controller ≤ 1 at hle
      rw [happend, hcount, if_pos hon, if_pos rfl] at hle
      omega
    · intro hoff
      refine registered_of_count fun other => ?_
      change (s.observers ++ [controller]).count other = if other ∈ insert controller s.onScreen then 1 else 0
      rw [happend, hcount]
      by_cases heq : other = controller
      · rw [heq, if_neg hoff, if_pos rfl, if_pos (Finset.mem_insert_self _ _)]
      · rw [if_neg heq, Nat.add_zero]
        exact if_congr (by rw [Finset.mem_insert, or_iff_right heq]) rfl rfl
  | viewWillDisappear controller =>
    obtain rfl := Option.some.inj hs
    exact iff_of_true h trivial
  | viewDidDisappear controller =>
    obtain rfl := Option.some.inj hs
    constructor
    · intro h' hon
      -- its registration is still there
      have hnone := h'.onScreen controller (Finset.notMem_erase _ _)
      change s.observers.count controller = 0 at hnone
      rw [hcount, if_pos hon] at hnone
      cases hnone
    · intro hoff
      have hsame : s.onScreen.erase controller = s.onScreen := Finset.erase_eq_of_notMem hoff
      refine registered_of_count fun other => ?_
      rw [hsame]
      exact hcount other
  | deinit controller =>
    simp only [TimeOutObservers.step] at hs
    split at hs
    · cases hs
    · rename_i hoff
      obtain rfl := Option.some.inj hs
      refine iff_of_true (registered_of_count fun other => ?_) trivial
      -- a controller off screen has no registration to take back
      have hmem : controller ∉ s.observers := List.count_eq_zero.1 (h.onScreen controller hoff)
      have hsame : (s.observers.filter fun observer => observer ≠ controller) = s.observers := by
        rw [List.filter_eq_self]
        intro other hother
        simpa using fun heq : other = controller => hmem (heq ▸ hother)
      change (s.observers.filter fun observer => observer ≠ controller).count other = _
      rw [hsame]
      exact hcount other

/-- As many observers as controllers on screen. -/
theorem Registered.length_eq (hseen : s.Seen) (h : s.Registered) : s.observers.length = s.onScreen.card := by
  have hnodup : s.observers.Nodup := List.nodup_iff_count_le_one.2 h.atMostOnce
  have hset : s.observers.toFinset = s.onScreen := by
    ext controller
    rw [List.mem_toFinset]
    constructor
    · intro hmem
      by_contra hoff
      exact List.count_pos_iff.2 hmem |>.ne' (h.onScreen controller hoff)
    · exact hseen controller
  rw [← hset, List.toFinset_card_of_nodup hnodup]

theorem balanced_iff_card (hseen : s.Seen) : s.Balanced ↔ s.Registered ∧ s.onScreen.card ≤ 1 := by
  constructor
  · intro h
    refine ⟨h.toRegistered, ?_⟩
    rcases s.onScreen.eq_empty_or_nonempty with hempty | hsome
    · simp [hempty]
    · have hone := h.switchesOnce hsome
      rw [TimeOutObservers.postNotification, Registered.length_eq hseen h.toRegistered] at hone
      omega
  · rintro ⟨h, hcard⟩
    refine ⟨h, fun hsome => ?_⟩
    have hpos := Finset.card_pos.2 hsome
    rw [TimeOutObservers.postNotification, Registered.length_eq hseen h]
    omega

/-- **One event keeps the balance exactly when it meets the condition.** -/
theorem balanced_step (hseen : s.Seen) (h : s.Balanced) (hs : s.step e = some s') :
    s'.Balanced ↔ Alone s e := by
  rw [balanced_iff_card (seen_step hseen hs), registered_step hseen h.toRegistered hs]
  have hcard := ((balanced_iff_card hseen).1 h).2
  cases e with
  | viewDidAppear controller =>
    obtain rfl := Option.some.inj hs
    change controller ∉ s.onScreen ∧ (insert controller s.onScreen).card ≤ 1 ↔ s.onScreen = ∅
    constructor
    · rintro ⟨hoff, hle⟩
      rw [Finset.card_insert_of_notMem hoff] at hle
      exact Finset.card_eq_zero.1 (by omega)
    · intro hempty
      simp [hempty]
  | viewWillDisappear controller =>
    obtain rfl := Option.some.inj hs
    exact and_iff_left hcard
  | viewDidDisappear controller =>
    obtain rfl := Option.some.inj hs
    exact and_iff_left (le_trans (Finset.card_erase_le) hcard)
  | deinit controller =>
    simp only [TimeOutObservers.step] at hs
    split at hs
    · cases hs
    · obtain rfl := Option.some.inj hs
      exact and_iff_left hcard

/-! ## Runs -/

theorem seen_launch : TimeOutObservers.launch.Seen := fun _ h => absurd h (Finset.notMem_empty _)

theorem balanced_launch : TimeOutObservers.launch.Balanced :=
  (balanced_iff_card seen_launch).2
    ⟨⟨fun _ => Nat.zero_le _, fun _ _ => rfl⟩, Nat.zero_le _⟩

/-- **The observers stay balanced exactly when nobody appears while somebody is on screen, and
nobody on screen disappears**; and the registrations alone are right exactly when nobody
appears, or disappears, who is on screen. Any controllers and any callbacks, from a launch. -/
theorem balanced_iff {es : List ViewEvent} (h : run TimeOutObservers.step .launch es = some s) :
    (Along TimeOutObservers.step (fun s e => ∀ s' ∈ s.step e, s'.Balanced) .launch es ↔
      Along TimeOutObservers.step Alone .launch es) ∧
    (Along TimeOutObservers.step (fun s e => ∀ s' ∈ s.step e, s'.Registered) .launch es ↔
      Along TimeOutObservers.step Unseen .launch es) := by
  constructor
  · exact (states_iff_along (fun s e s' => seen_step) (fun s e s' => balanced_step) es seen_launch
      balanced_launch h).1
  · exact (states_iff_along (fun s e s' => seen_step) (fun s e s' => registered_step) es seen_launch
      balanced_launch.toRegistered h).1

/-- Home is there all along; a screen that never comes up is released, and a swipe back is
cancelled. -/
def homeAloneRun : List ViewEvent :=
  [.viewDidAppear 0, .viewWillDisappear 0, .viewDidDisappear 1, .deinit 1]

theorem balanced_homeAlone :
    Along TimeOutObservers.step (fun s e => ∀ s' ∈ s.step e, s'.Balanced) .launch homeAloneRun := by
  obtain ⟨s, h⟩ : ∃ s, run TimeOutObservers.step .launch homeAloneRun = some s := ⟨_, rfl⟩
  exact (balanced_iff h).1.2 (by decide)

/-- **Coming back registers again.** The home screen shows a record and comes back: it is registered
twice and the record's screen still once, so one post switches to the login screen three times. -/
theorem second_appearance_registered :
    ∃ s, run TimeOutObservers.step .launch [.viewDidAppear 0, .viewWillDisappear 0, .viewDidDisappear 0,
        .viewDidAppear 1, .viewWillDisappear 1, .viewDidDisappear 1, .viewDidAppear 0] = some s ∧
      s.observers.count 0 = 2 ∧ 1 ∉ s.onScreen ∧ s.observers.count 1 = 1 ∧
      s.postNotification.length = 3 ∧ ¬ s.Balanced := by
  refine ⟨_, rfl, by decide, by decide, by decide, by decide, fun h => ?_⟩
  exact absurd (h.atMostOnce 0) (by decide)

end ArtExhibition
