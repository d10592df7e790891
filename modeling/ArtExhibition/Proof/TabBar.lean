import ArtExhibition.Machine.Run
import ArtExhibition.Spec.TabBar

/-!
# When the tab bar is consistent

`settled` is the bar once everything outstanding has completed: no completion changes it
(`settled_of_completes`), and it is reached by completions alone (`settled_reachable`). So a
bar settles consistently exactly when `settled` is consistent (`settles_iff`).

`tapOK` says when a step keeps that (`settled_consistent_step`). A tap must not start a
switch from an item other than the one the bar is heading for (`lastTarget`), unless it is
to that very item; a redraw must not come when the bar is heading for another item than the
first. `tabBar_consistent_iff`: every state of a run settles consistently exactly when each
tap and each redraw of the run meets its condition, and then every state without outstanding
switches is consistent. Two quick taps (`two_quick_taps`) or a redraw away from the first tab (the
example) are enough to break it.
-/

namespace ArtExhibition

open Machine

variable {menuItems : Nat} {bar bar' : CustomTabBar} {event : TabEvent}

/-- The item that the bar is heading for: that of the last outstanding switch, or the active one. -/
def CustomTabBar.lastTarget (bar : CustomTabBar) : Nat :=
  (bar.animations ++ bar.blocks.map Prod.snd).getLastD bar.activeItem

/-- The highlighted icons after a block of `switchTab`. -/
def switchIcons (highlighted : Finset Nat) (block : Nat × Nat) : Finset Nat :=
  (insert block.2 highlighted).erase block.1

/-- The bar once everything outstanding has completed. -/
def CustomTabBar.settled (bar : CustomTabBar) : CustomTabBar where
  activeItem := bar.lastTarget
  highlighted := bar.blocks.foldl switchIcons bar.highlighted
  wavePath := ((bar.curves ++ bar.blocks.map Prod.snd).map some).getLastD bar.wavePath
  selectedIndex := (bar.animations ++ bar.blocks.map Prod.snd).getLastD bar.selectedIndex
  blocks := []
  curves := []
  animations := []

/-- The event completes something outstanding: it is neither a tap nor a redraw. -/
def TabEvent.Completes : TabEvent → Prop
  | .runBlock | .curveCompleted | .animationCompleted => True
  | .handleTap _ | .draw => False

/-- However the outstanding switches complete, they leave a consistent bar. -/
def CustomTabBar.Settles (menuItems : Nat) (bar : CustomTabBar) : Prop :=
  ∀ events bar', (∀ event ∈ events, event.Completes) →
    run (CustomTabBar.step menuItems) bar events = some bar' → bar'.Quiet → bar'.Consistent

/-! ## The settled bar -/

theorem settled_of_quiet (h : bar.Quiet) : bar.settled = bar := by
  obtain ⟨hblocks, hcurves, hanimations⟩ := h
  rcases bar with ⟨activeItem, highlighted, wavePath, selectedIndex, blocks, curves, animations⟩
  dsimp only at hblocks hcurves hanimations
  subst hblocks hcurves hanimations
  rfl

/-- **A completion does not change what the bar settles to.** -/
theorem settled_of_completes (hc : event.Completes) (h : bar.step menuItems event = some bar') :
    bar'.settled = bar.settled := by
  rcases bar with ⟨activeItem, highlighted, wavePath, selectedIndex, blocks, curves, animations⟩
  cases event with
  | handleTap toTag => cases hc
  | draw => cases hc
  | runBlock =>
    rcases blocks with - | ⟨⟨fromItem, toItem⟩, blocks⟩
    · cases h
    · cases h
      simp [CustomTabBar.settled, CustomTabBar.lastTarget, CustomTabBar.animate, CustomTabBar.moveCurve,
        CustomTabBar.highlightImageView, CustomTabBar.turnOffHighlightImageView, switchIcons]
  | curveCompleted =>
    rcases curves with - | ⟨toItem, curves⟩
    · cases h
    · cases h
      simp only [CustomTabBar.settled, CustomTabBar.lastTarget, List.cons_append, List.map_cons,
        List.getLastD_cons]
  | animationCompleted =>
    rcases animations with - | ⟨toItem, animations⟩
    · cases h
    · cases h
      simp only [CustomTabBar.settled, CustomTabBar.lastTarget, CustomTabBar.itemTapped,
        List.cons_append, List.getLastD_cons]

/-- How much is outstanding: a block has its own run and two completions to come. -/
def CustomTabBar.outstanding (bar : CustomTabBar) : Nat :=
  3 * bar.blocks.length + bar.curves.length + bar.animations.length

/-- A bar that is not quiet has a completion to come. -/
theorem completes_of_not_quiet (menuItems : Nat) (h : ¬ bar.Quiet) :
    ∃ event bar', event.Completes ∧ bar.step menuItems event = some bar' ∧
      bar'.outstanding < bar.outstanding := by
  rcases bar with ⟨activeItem, highlighted, wavePath, selectedIndex, blocks, curves, animations⟩
  rcases blocks with - | ⟨⟨fromItem, toItem⟩, blocks⟩
  · rcases curves with - | ⟨toItem, curves⟩
    · rcases animations with - | ⟨toItem, animations⟩
      · exact absurd ⟨rfl, rfl, rfl⟩ h
      · exact ⟨.animationCompleted, _, trivial, rfl, by
          simp [CustomTabBar.outstanding, CustomTabBar.itemTapped]⟩
    · exact ⟨.curveCompleted, _, trivial, rfl, by simp [CustomTabBar.outstanding]⟩
  · refine ⟨.runBlock, _, trivial, rfl, ?_⟩
    simp only [CustomTabBar.outstanding, CustomTabBar.animate, CustomTabBar.moveCurve,
      CustomTabBar.highlightImageView, CustomTabBar.turnOffHighlightImageView, List.length_append,
      List.length_cons, List.length_nil]
    omega

/-- **The settled bar is reached** by completions alone. -/
theorem settled_reachable (menuItems : Nat) (bar : CustomTabBar) :
    ∃ events, (∀ event ∈ events, event.Completes) ∧
      run (CustomTabBar.step menuItems) bar events = some bar.settled := by
  -- by induction on what is outstanding
  induction hn : bar.outstanding using Nat.strong_induction_on generalizing bar with
  | _ n ih =>
    by_cases hq : bar.Quiet
    · exact ⟨[], by simp, by rw [settled_of_quiet hq]; rfl⟩
    · obtain ⟨event, bar', hc, hstep, hless⟩ := completes_of_not_quiet menuItems hq
      obtain ⟨events, hall, hrun⟩ := ih bar'.outstanding (hn ▸ hless) bar' rfl
      refine ⟨event :: events, ?_, ?_⟩
      · intro e he
        rcases List.mem_cons.1 he with rfl | he
        · exact hc
        · exact hall e he
      · rw [run_cons]
        exact ⟨bar', hstep, by rw [hrun, settled_of_completes hc hstep]⟩

theorem settled_of_run (events : List TabEvent) (hall : ∀ event ∈ events, event.Completes)
    (hrun : run (CustomTabBar.step menuItems) bar events = some bar') : bar'.settled = bar.settled := by
  induction events generalizing bar with
  | nil =>
    cases hrun
    rfl
  | cons event events ih =>
    obtain ⟨next, hstep, hrun⟩ := run_cons.1 hrun
    rw [ih (fun e he => hall e (List.mem_cons_of_mem _ he)) hrun,
      settled_of_completes (hall event List.mem_cons_self) hstep]

/-- **A bar settles consistently** exactly when the settled bar is consistent. -/
theorem settles_iff (menuItems : Nat) (bar : CustomTabBar) :
    bar.Settles menuItems ↔ bar.settled.Consistent := by
  constructor
  · intro h
    obtain ⟨events, hall, hrun⟩ := settled_reachable menuItems bar
    exact h events bar.settled hall hrun ⟨rfl, rfl, rfl⟩
  · intro h events bar' hall hrun hq
    rwa [← settled_of_quiet hq, settled_of_run events hall hrun]

/-! ## What keeps it consistent -/

/-- When a step keeps the settled bar consistent. -/
def tapOK (bar : CustomTabBar) : TabEvent → Prop
  | .handleTap toTag =>
    toTag = bar.activeItem ∨ toTag = bar.lastTarget ∨ bar.lastTarget = bar.activeItem
  | .draw => bar.lastTarget = 0 ∨ ∃ block ∈ bar.blocks, block.1 = 0
  | _ => True

instance (bar : CustomTabBar) : (event : TabEvent) → Decidable (tapOK bar event)
  | .handleTap _ => inferInstanceAs (Decidable (_ ∨ _ ∨ _))
  | .draw => inferInstanceAs (Decidable (_ ∨ _))
  | .runBlock | .curveCompleted | .animationCompleted => inferInstanceAs (Decidable True)

/-- The icons after one more switch. -/
theorem switchIcons_singleton {lastTarget fromItem toItem : Nat} (hne : fromItem ≠ toItem) :
    switchIcons {lastTarget} (fromItem, toItem) = {toItem} ↔
      toItem = lastTarget ∨ lastTarget = fromItem := by
  unfold switchIcons
  constructor
  · intro h
    by_contra hc
    push Not at hc
    -- the icon the bar was heading for stays highlighted
    have hmem : lastTarget ∈ (insert toItem {lastTarget} : Finset Nat).erase fromItem := by
      simp [hc.2]
    rw [h, Finset.mem_singleton] at hmem
    exact hc.1 hmem.symm
  · intro h
    ext i
    simp only [Finset.mem_erase, Finset.mem_insert, Finset.mem_singleton]
    omega

/-- The settled bar after a tap that starts a switch. -/
theorem settled_switch {toTag : Nat} (hne : bar.activeItem ≠ toTag) :
    (bar.handleTap toTag).settled =
      ⟨toTag, switchIcons bar.settled.highlighted (bar.activeItem, toTag), some toTag, toTag, [], [], []⟩ := by
  simp [CustomTabBar.handleTap, CustomTabBar.switchTab, hne, CustomTabBar.settled,
    CustomTabBar.lastTarget]

theorem tap_settled (h : bar.settled.Consistent) (toTag : Nat) :
    (bar.handleTap toTag).settled.Consistent ↔ tapOK bar (.handleTap toTag) := by
  by_cases hne : bar.activeItem = toTag
  · have hsame : bar.handleTap toTag = bar := if_pos hne
    rw [hsame]
    exact iff_of_true h (.inl hne.symm)
  · have hicons : bar.settled.highlighted = {bar.lastTarget} := h.1
    rw [settled_switch hne, hicons]
    unfold CustomTabBar.Consistent tapOK
    rw [switchIcons_singleton hne]
    simp [Ne.symm hne]

/-- An icon highlighted before some switches stays so, unless one of them leaves its item. -/
theorem foldl_switchIcons_insert (item : Nat) (blocks : List (Nat × Nat)) (highlighted : Finset Nat) :
    ((∃ block ∈ blocks, block.1 = item) →
      blocks.foldl switchIcons (insert item highlighted) = blocks.foldl switchIcons highlighted) ∧
    ((¬ ∃ block ∈ blocks, block.1 = item) →
      blocks.foldl switchIcons (insert item highlighted) =
        insert item (blocks.foldl switchIcons highlighted)) := by
  induction blocks generalizing highlighted with
  | nil => simp
  | cons block blocks ih =>
    by_cases hb : block.1 = item
    · have hsame : switchIcons (insert item highlighted) block = switchIcons highlighted block := by
        unfold switchIcons
        rw [Finset.insert_comm, hb, Finset.erase_insert_eq_erase]
      simp [hb, hsame]
    · have hnext : switchIcons (insert item highlighted) block =
          insert item (switchIcons highlighted block) := by
        unfold switchIcons
        rw [Finset.insert_comm, Finset.erase_insert_of_ne (Ne.symm hb)]
      simpa [hb, hnext] using ih (switchIcons highlighted block)

/-- The wave of the settled bar after a redraw: where it was, unless nothing moves it there again. -/
theorem draw_wave (h : bar.settled.wavePath = some bar.lastTarget)
    (hmoved : bar.lastTarget = 0 ∨ bar.blocks ≠ []) :
    bar.draw.settled.wavePath = some bar.lastTarget := by
  have hwave : ((bar.curves ++ bar.blocks.map Prod.snd).map some).getLastD bar.wavePath =
    some bar.lastTarget := h
  have hdraw : bar.draw.settled.wavePath =
    ((bar.curves ++ bar.blocks.map Prod.snd).map some).getLastD (some 0) := rfl
  rw [hdraw]
  cases hl : (bar.curves ++ bar.blocks.map Prod.snd).map some with
  | nil =>
    rcases hmoved with hzero | hblocks
    · rw [hzero]
      rfl
    · simp [hblocks] at hl
  | cons wave waves =>
    rw [hl, List.getLastD_cons] at hwave
    rwa [List.getLastD_cons]

theorem draw_settled (h : bar.settled.Consistent) :
    bar.draw.settled.Consistent ↔ tapOK bar .draw := by
  have hicons : bar.blocks.foldl switchIcons bar.highlighted = {bar.lastTarget} := h.1
  have hfold := foldl_switchIcons_insert 0 bar.blocks bar.highlighted
  by_cases hleave : ∃ block ∈ bar.blocks, block.1 = 0
  · have hblocks : bar.blocks ≠ [] := by
      obtain ⟨block, hmem, -⟩ := hleave
      exact List.ne_nil_of_mem hmem
    exact iff_of_true ⟨(hfold.1 hleave).trans hicons, draw_wave h.2.1 (.inr hblocks), h.2.2⟩ (.inr hleave)
  · have hlast : bar.draw.settled.highlighted = insert 0 {bar.lastTarget} :=
      (hfold.2 hleave).trans (congrArg (insert 0) hicons)
    by_cases hzero : bar.lastTarget = 0
    · refine iff_of_true ⟨?_, draw_wave h.2.1 (.inl hzero), h.2.2⟩ (.inl hzero)
      rw [hlast, hzero, Finset.insert_eq_of_mem (Finset.mem_singleton_self 0)]
      exact congrArg _ hzero.symm
    · refine iff_of_false ?_ (by rintro (h0 | h0); exacts [hzero h0, hleave h0])
      rintro ⟨hone, -⟩
      -- the first icon is highlighted beside the one the bar is heading for
      have hmem : 0 ∈ bar.draw.settled.highlighted := by
        rw [hlast]
        exact Finset.mem_insert_self 0 _
      rw [hone, Finset.mem_singleton] at hmem
      exact hzero hmem.symm

/-- **A step keeps the bar settling consistently** exactly when it meets its condition. -/
theorem settled_consistent_step (h : bar.settled.Consistent)
    (hstep : bar.step menuItems event = some bar') :
    bar'.settled.Consistent ↔ tapOK bar event := by
  cases event with
  | handleTap toTag =>
    simp only [CustomTabBar.step, Option.ite_none_right_eq_some, Option.some.injEq] at hstep
    rw [← hstep.2]
    exact tap_settled h toTag
  | draw =>
    cases hstep
    exact draw_settled h
  | runBlock =>
    have hc : TabEvent.runBlock.Completes := trivial
    rw [settled_of_completes hc hstep]
    exact iff_of_true h trivial
  | curveCompleted =>
    have hc : TabEvent.curveCompleted.Completes := trivial
    rw [settled_of_completes hc hstep]
    exact iff_of_true h trivial
  | animationCompleted =>
    have hc : TabEvent.animationCompleted.Completes := trivial
    rw [settled_of_completes hc hstep]
    exact iff_of_true h trivial

/-! ## Runs -/

/-- The tab bar when it has been drawn for the first time. -/
def CustomTabBar.drawn : CustomTabBar := CustomTabBar.new.draw

theorem drawn_consistent : CustomTabBar.drawn.settled.Consistent := by decide

/-- **Tab bar consistency.** Every state of a run settles consistently exactly when every tap
and every redraw of the run meets its condition; then a state without outstanding switches is
consistent. -/
theorem tabBar_consistent_iff {menuItems : Nat} {events : List TabEvent} {bar : CustomTabBar}
    (hrun : run (CustomTabBar.step menuItems) .drawn events = some bar) :
    (Along (CustomTabBar.step menuItems)
        (fun bar event => ∀ bar' ∈ bar.step menuItems event, bar'.Settles menuItems) .drawn events ↔
      Along (CustomTabBar.step menuItems) tapOK .drawn events) ∧
    (Along (CustomTabBar.step menuItems) tapOK .drawn events → bar.Quiet → bar.Consistent) := by
  have hstates := states_iff_along (I := fun _ => True) (P := fun bar : CustomTabBar => bar.settled.Consistent)
    (fun _ _ _ _ _ => trivial) (fun bar event bar' _ => settled_consistent_step) events trivial
    drawn_consistent hrun
  simp only [settles_iff]
  refine ⟨hstates.1, fun hok hq => ?_⟩
  have hsettled := hstates.2 hok
  rwa [settled_of_quiet hq] at hsettled

/-- A switch, a second tap on its item before it is done, and a redraw on the first tab. -/
def orderlyRun : List TabEvent :=
  [.draw, .handleTap 3, .runBlock, .handleTap 3, .runBlock, .curveCompleted, .animationCompleted,
    .curveCompleted, .animationCompleted]

theorem tabBar_consistent_orderly :
    ∃ bar, run (CustomTabBar.step 5) .drawn orderlyRun = some bar ∧ bar.activeItem = 3 ∧
      bar.Consistent := by
  obtain ⟨bar, hrun, hactive, hq⟩ :
      ∃ bar, run (CustomTabBar.step 5) .drawn orderlyRun = some bar ∧ bar.activeItem = 3 ∧ bar.Quiet :=
    ⟨_, rfl, by decide, by decide⟩
  exact ⟨bar, hrun, hactive, (tabBar_consistent_iff hrun).2 (by decide) hq⟩

/-- Taps on two items before the first switch is done leave both icons highlighted. -/
theorem two_quick_taps :
    ∃ bar, run (CustomTabBar.step 5) .drawn
      [.handleTap 1, .runBlock, .handleTap 2, .runBlock, .curveCompleted, .animationCompleted,
        .curveCompleted, .animationCompleted] = some bar ∧
      bar.Quiet ∧ bar.highlighted = {1, 2} ∧ bar.activeItem = 2 ∧ ¬ bar.Consistent :=
  ⟨_, rfl, by decide, by decide, by decide, by decide⟩

/-- A redraw away from the first tab highlights its icon and moves the wave there. -/
example :
    ∃ bar, run (CustomTabBar.step 5) .drawn
      [.handleTap 1, .runBlock, .curveCompleted, .animationCompleted, .draw] = some bar ∧
      bar.Quiet ∧ bar.highlighted = {0, 1} ∧ bar.wavePath = some 0 ∧ bar.activeItem = 1 :=
  ⟨_, rfl, by decide, by decide, by decide, by decide⟩

end ArtExhibition
