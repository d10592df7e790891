import ArtExhibition.Machine.Run
import ArtExhibition.Machine.Slots
import ArtExhibition.Spec.Loader

/-!
# When the loading overlay tells the truth

`Truthful`: the overlay is attached exactly while a flow that showed it is pending. Starting
a flow keeps this. Ending one keeps it only by chance, since the overlay is not counted: a
task that ends with `hide()` must not leave another flow pending, and a flow that ends
without it must (`loaderOK`). The logins and sign-ups always end without it: their observers
return early when the new value is `false`, so the block's call of `hide()` is dead.

`truthful_iff`: every state of a run is truthful exactly when every step meets the
condition. A failed login is enough to leave the overlay for good
(`failed_login_covers`).
-/

namespace ArtExhibition

open Machine

variable {clears : Bool} {loader loader' : Loader} {event : LoaderEvent}

/-- A flow other than flow `i` is pending. -/
def Loader.OtherPending (loader : Loader) (i : Nat) : Prop :=
  ∃ flow ∈ loader.flows.eraseIdx i, flow.Pending

instance (loader : Loader) (i : Nat) : Decidable (loader.OtherPending i) :=
  inferInstanceAs (Decidable (∃ flow ∈ loader.flows.eraseIdx i, flow.Pending))

/-- The end of a flow of this kind: with `hide()` when no other flow is pending, else when
another one is. Later appearances never showed the overlay, so without `hide()` they may end
at any time. -/
def Loader.endOK (loader : Loader) (i : Nat) (kind : LoaderFlowKind) (hides : Bool) : Prop :=
  if hides then ¬ loader.OtherPending i else kind.shows = true → loader.OtherPending i

/-- The screen whose `setupVM` is part of a flow. -/
def LoaderFlowKind.screen : LoaderFlowKind → Option LoadingScreen
  | .setUp screen | .reappearance screen => some screen
  | .authentication => none

/-- When a step keeps the overlay truthful. -/
def loaderOK (clears : Bool) (loader : Loader) : LoaderEvent → Prop
  | .setupVMEnds i result => ∀ flow ∈ loader.flows[i]?, ∀ screen ∈ flow.kind.screen,
    loader.endOK i flow.kind (screen.setupVM result)
  | .authenticationEnds i _ _ => loader.endOK i .authentication false
  | .runBlock => clears = true → ¬ ∃ flow ∈ loader.flows, flow.Pending
  | _ => True

instance (loader : Loader) (i : Nat) (kind : LoaderFlowKind) (hides : Bool) :
    Decidable (loader.endOK i kind hides) := by
  unfold Loader.endOK
  infer_instance

instance (clears : Bool) (loader : Loader) : (event : LoaderEvent) → Decidable (loaderOK clears loader event)
  | .setupVMEnds i _ => inferInstanceAs (Decidable (∀ flow ∈ loader.flows[i]?, _))
  | .authenticationEnds _ _ _ => inferInstanceAs (Decidable (Loader.endOK _ _ _ _))
  | .runBlock => inferInstanceAs (Decidable (_ → _))
  | .setupUI _ | .setupVM _ | .tap | .otherLogin _ => inferInstanceAs (Decidable True)

/-! ## The observers' blocks -/

/-- Every block on the main queue has the value `true`. -/
def Loader.BlocksValid (loader : Loader) : Prop := ∀ valid ∈ loader.blocks, valid = true

theorem observeVM_valid (h : loader.BlocksValid) (valid : Bool) : (loader.observeVM valid).BlocksValid := by
  unfold Loader.observeVM
  split
  · rename_i hv
    intro v hmem
    rcases List.mem_append.1 hmem with hmem | hmem
    · exact h v hmem
    · rw [List.mem_singleton.1 hmem, hv]
  · exact h

theorem blocksValid_of_blocks (h : loader.BlocksValid) (hb : loader'.blocks = loader.blocks) :
    loader'.BlocksValid := by
  unfold Loader.BlocksValid
  rwa [hb]

/-- **The observers' `hide()` is dead**: no step queues a block with the value `false`. -/
theorem blocksValid_step (h : loader.BlocksValid) (hstep : loader.step clears event = some loader') :
    loader'.BlocksValid := by
  cases event with
  | setupUI screen =>
    cases hstep
    exact h
  | tap =>
    cases hstep
    exact h
  | otherLogin value =>
    cases hstep
    exact observeVM_valid h value
  | setupVM i =>
    refine blocksValid_of_blocks h ?_
    simp only [Loader.step] at hstep
    split at hstep <;> cases hstep <;> rfl
  | setupVMEnds i result =>
    refine blocksValid_of_blocks h ?_
    simp only [Loader.step] at hstep
    split at hstep
    · cases hstep
      split <;> rfl
    · cases hstep
      split <;> rfl
    · cases hstep
  | authenticationEnds i result observed =>
    simp only [Loader.step] at hstep
    split at hstep
    · cases hstep
      split
      · have hended : Loader.BlocksValid
            { loader with flows := loader.flows.set i ⟨.authentication, .ended⟩ } := h
        exact observeVM_valid hended _
      · exact h
    · cases hstep
      exact h
    · cases hstep
  | runBlock =>
    simp only [Loader.step] at hstep
    split at hstep
    · rename_i valid blocks hblocks
      cases hstep
      have hrest : ∀ v ∈ blocks, v = true := fun v hv => h v (hblocks ▸ List.mem_cons_of_mem _ hv)
      split
      · exact hrest
      · exact hrest
    · cases hstep

/-! ## One step -/

theorem truthful_congr (ha : loader'.attached = loader.attached) (hf : loader'.flows = loader.flows) :
    loader'.Truthful ↔ loader.Truthful := by
  unfold Loader.Truthful
  rw [ha, hf]

theorem truthful_observeVM (valid : Bool) : (loader.observeVM valid).Truthful ↔ loader.Truthful := by
  unfold Loader.observeVM
  split
  · exact truthful_congr rfl rfl
  · rfl

/-- The first appearance of a screen. -/
theorem truthful_running {i : Nat} {kind : LoaderFlowKind} (h : loader.Truthful)
    (hflow : loader.flows[i]? = some ⟨kind, .loaded⟩) :
    Loader.Truthful { loader with flows := loader.flows.set i ⟨kind, .running⟩ } := by
  have hsame : (⟨kind, .running⟩ : LoaderFlow).Pending ↔ (⟨kind, .loaded⟩ : LoaderFlow).Pending := by
    simp [LoaderFlow.Pending]
  unfold Loader.Truthful at h ⊢
  rwa [exists_mem_set_iff hflow, hsame, ← exists_mem_iff_of_slot hflow]

/-- A later appearance of a screen. -/
theorem truthful_reappearance (h : loader.Truthful) (screen : LoadingScreen) :
    Loader.Truthful { loader with flows := loader.flows ++ [⟨.reappearance screen, .running⟩] } := by
  have hnot : ¬ (⟨.reappearance screen, .running⟩ : LoaderFlow).Pending := fun hp => by cases hp.2
  unfold Loader.Truthful at h ⊢
  simpa [or_and_right, exists_or, hnot] using h

/-- The switch to the home screen. -/
theorem truthful_switch (h : loader.Truthful) (clears : Bool) (blocks : List Bool) :
    (Loader.switchToArtHomeViewController clears { loader with blocks := blocks }).Truthful ↔
      (clears = true → ¬ ∃ flow ∈ loader.flows, flow.Pending) := by
  unfold Loader.Truthful at h ⊢
  simp only [Loader.switchToArtHomeViewController, Bool.and_eq_true, Bool.not_eq_true']
  rw [h]
  cases clears <;> simp

/-- A new flow that shows the overlay. -/
theorem truthful_show (kind : LoaderFlowKind) (hkind : kind.shows = true) (phase : LoaderFlowPhase)
    (hphase : phase ≠ .ended) (loader : Loader) :
    Loader.Truthful { loader.show with flows := loader.flows ++ [⟨kind, phase⟩] } :=
  iff_of_true rfl ⟨⟨kind, phase⟩, by simp, hphase, hkind⟩

/-- **The end of a flow** keeps the overlay truthful exactly when it meets its condition. -/
theorem truthful_end {i : Nat} {kind : LoaderFlowKind} (h : loader.Truthful)
    (hflow : loader.flows[i]? = some ⟨kind, .running⟩) (hides : Bool) :
    (if hides then { loader with flows := loader.flows.set i ⟨kind, .ended⟩ }.hide
      else { loader with flows := loader.flows.set i ⟨kind, .ended⟩ }).Truthful ↔
      loader.endOK i kind hides := by
  have hnot : ¬ (⟨kind, .ended⟩ : LoaderFlow).Pending := fun hp => hp.1 rfl
  -- what is pending afterwards is what was pending beside flow `i`
  have hafter : (∃ flow ∈ loader.flows.set i ⟨kind, .ended⟩, flow.Pending) ↔ loader.OtherPending i := by
    rw [exists_mem_set_iff hflow, or_iff_left hnot]
    rfl
  have hbefore : (∃ flow ∈ loader.flows, flow.Pending) ↔
      loader.OtherPending i ∨ kind.shows = true := by
    rw [exists_mem_iff_of_slot hflow]
    simp [Loader.OtherPending, LoaderFlow.Pending]
  unfold Loader.endOK
  cases hides with
  | true =>
    rw [if_pos rfl, if_pos rfl, ← hafter]
    simp [Loader.Truthful, Loader.hide]
  | false =>
    rw [if_neg Bool.false_ne_true, if_neg Bool.false_ne_true]
    unfold Loader.Truthful
    rw [hafter, h.trans hbefore]
    tauto

/-- **A step keeps the overlay truthful** exactly when it meets its condition. -/
theorem truthful_step (h : loader.Truthful) (hb : loader.BlocksValid)
    (hstep : loader.step clears event = some loader') :
    loader'.Truthful ↔ loaderOK clears loader event := by
  cases event with
  | setupUI screen =>
    cases hstep
    exact iff_of_true (truthful_show (.setUp screen) rfl .loaded (by decide) loader) trivial
  | tap =>
    cases hstep
    exact iff_of_true (truthful_show .authentication rfl .running (by decide) loader) trivial
  | otherLogin value =>
    cases hstep
    exact iff_of_true ((truthful_observeVM value).2 h) trivial
  | setupVM i =>
    refine iff_of_true ?_ trivial
    simp only [Loader.step] at hstep
    split at hstep
    · rename_i screen hflow
      cases hstep
      exact truthful_running h hflow
    · cases hstep
      exact truthful_reappearance h _
    · cases hstep
  | setupVMEnds i result =>
    simp only [Loader.step] at hstep
    split at hstep
    · rename_i screen hflow
      cases hstep
      rw [truthful_end h hflow]
      simp [loaderOK, LoaderFlowKind.screen, hflow]
    · rename_i screen hflow
      cases hstep
      rw [truthful_end h hflow]
      simp [loaderOK, LoaderFlowKind.screen, hflow]
    · cases hstep
  | authenticationEnds i result observed =>
    simp only [Loader.step] at hstep
    split at hstep
    · rename_i value hflow
      cases hstep
      have hend := truthful_end h hflow false
      rw [if_neg Bool.false_ne_true] at hend
      split
      · rw [truthful_observeVM]
        exact hend
      · exact hend
    · rename_i hflow
      cases hstep
      have hend := truthful_end h hflow false
      rw [if_neg Bool.false_ne_true] at hend
      exact hend
    · cases hstep
  | runBlock =>
    simp only [Loader.step] at hstep
    split at hstep
    · rename_i valid blocks hblocks
      cases hstep
      rw [hb valid (hblocks ▸ List.mem_cons_self), if_pos rfl]
      exact truthful_switch h clears blocks
    · cases hstep

/-! ## Runs -/

/-- **The loading overlay tells the truth** in every state of a run exactly when every step
of the run meets its condition. -/
theorem truthful_iff {events : List LoaderEvent}
    (hrun : run (Loader.step clears) .launch events = some loader) :
    (Along (Loader.step clears) (fun loader event => ∀ loader' ∈ loader.step clears event, loader'.Truthful)
        .launch events ↔
      Along (Loader.step clears) (loaderOK clears) .launch events) ∧
    (Along (Loader.step clears) (loaderOK clears) .launch events → loader.Truthful) := by
  have hblocks : Loader.launch.BlocksValid := fun valid hvalid => by cases hvalid
  have htruthful : Loader.launch.Truthful := by decide
  exact states_iff_along (fun loader event loader' => blocksValid_step)
    (fun loader event loader' hb h => truthful_step h hb) events hblocks htruthful hrun

/-- A login during which the home screen loads, and then the record of a person. -/
def loginThenHomeRun : List LoaderEvent :=
  [.tap, .setupUI .home, .authenticationEnds 0 (.ok true) true, .runBlock, .setupVM 1,
    .setupVMEnds 1 (.ok ()), .setupUI (.recordInformation (some 7)), .setupVM 2,
    .setupVMEnds 2 (.error ⟨-1009⟩)]

theorem truthful_loginThenHome :
    ∃ loader, run (Loader.step false) .launch loginThenHomeRun = some loader ∧
      loader.attached = false ∧ loader.Truthful := by
  obtain ⟨loader, hrun, hattached⟩ :
      ∃ loader, run (Loader.step false) .launch loginThenHomeRun = some loader ∧ loader.attached = false :=
    ⟨_, rfl, rfl⟩
  exact ⟨loader, hrun, hattached, (truthful_iff hrun).2 (by decide)⟩

/-- A login that fails leaves the overlay on the screen, with nothing pending or queued. -/
theorem failed_login_covers :
    ∃ loader, run (Loader.step false) .launch [.tap, .authenticationEnds 0 (.ok false) true] = some loader ∧
      loader.attached = true ∧ loader.blocks = [] ∧ ¬ ∃ flow ∈ loader.flows, flow.Pending :=
  ⟨_, rfl, rfl, rfl, by decide⟩

/-- The end of one load hides the overlay of another one. -/
example :
    ∃ loader, run (Loader.step false) .launch
      [.setupUI .home, .setupVM 0, .setupUI (.recordInformation (some 7)), .setupVM 1,
        .setupVMEnds 0 (.ok ())] = some loader ∧
      loader.attached = false ∧ ∃ flow ∈ loader.flows, flow.Pending :=
  ⟨_, rfl, rfl, by decide⟩

end ArtExhibition
