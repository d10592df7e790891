import ArtExhibition.Machine.EarlyReturn
import ArtExhibition.Proof.LoadTable

/-!
# Prefetching and its cancelling return early

Both loops return where they should go on to the next index path: prefetching at one that is
loading already or has no image, cancelling at one that is not loading. What they do to the
paths they reach is right (`prefetch_frame`, `cancelPrefetching_frame`); all listed paths are
served exactly when no work stands behind a path without (`batch_served_iff`).
-/

namespace ArtExhibition

open Machine

/-- The path has an image to load, and neither an operation nor an earlier place in the batch. -/
def ImageScreen.ToLoad (s : ImageScreen) (before : List IndexPath) (indexPath : IndexPath) : Prop :=
  s.loadingOperations indexPath = none ∧ (s.model indexPath).isSome ∧ indexPath ∉ before

/-- The path has an operation, and no earlier place in the batch. -/
def ImageScreen.ToCancel (s : ImageScreen) (before : List IndexPath) (indexPath : IndexPath) : Prop :=
  (s.loadingOperations indexPath).isSome ∧ indexPath ∉ before

variable {s : ImageScreen} {indexPath : IndexPath} {i : ℕ} {o : LoadingOperation}

/-! ### Prefetching -/

/-- **Prefetching keeps** the operations there are and the entries of the table. -/
theorem prefetch_frame (s : ImageScreen) (indexPaths : List IndexPath) :
    s.operations <+: (s.prefetch indexPaths).operations ∧
      ∀ p i, s.loadingOperations p = some i → (s.prefetch indexPaths).loadingOperations p = some i := by
  refine prefetch_induction (P := fun s' => s.operations <+: s'.operations ∧
    ∀ p i, s.loadingOperations p = some i → s'.loadingOperations p = some i) ?_
    ⟨List.prefix_rfl, fun _ _ h => h⟩ indexPaths
  rintro s' indexPath o ⟨ops, entries⟩ hnone -
  refine ⟨ops.trans (List.prefix_append _ _), fun p i h => ?_⟩
  have hp : p ≠ indexPath := by
    rintro rfl
    rw [entries p i h] at hnone
    cases hnone
  exact (Function.update_of_ne hp ..).trans (entries p i h)

theorem not_toLoad_iff (p : IndexPath) :
    ¬ s.ToLoad [] p ↔ ((s.model p).isSome → (s.loadingOperations p).isSome) := by
  unfold ImageScreen.ToLoad
  cases s.loadingOperations p <;> simp

/-- Both guards return from the loop. -/
theorem prefetch_stops (h : ¬ s.ToLoad [] indexPath) (indexPaths : List IndexPath) :
    s.prefetch (indexPath :: indexPaths) = s := by
  rw [not_toLoad_iff] at h
  unfold ImageScreen.prefetch ImageScreen.loadImage
  cases entry : s.loadingOperations indexPath with
  | some i => rfl
  | none =>
    cases url : s.model indexPath with
    | none => rfl
    | some url => simp [entry, url] at h

/-- With an operation made for one path, what is left to load is what it was, the path apart. -/
theorem toLoad_addOperation (before : List IndexPath) (p : IndexPath) :
    (s.addOperation indexPath o).ToLoad before p ↔ s.ToLoad (indexPath :: before) p := by
  unfold ImageScreen.ToLoad ImageScreen.addOperation
  by_cases hp : p = indexPath
  · subst hp
    simp
  · simp [hp]

/-- **When prefetching serves the whole batch.** -/
theorem prefetch_loaded_iff (s : ImageScreen) (indexPaths : List IndexPath) :
    (∀ p ∈ indexPaths, (s.model p).isSome →
        ((s.prefetch indexPaths).loadingOperations p).isSome) ↔
      Together s.ToLoad indexPaths := by
  induction indexPaths generalizing s with
  | nil => exact iff_of_true nofun together_nil
  | cons indexPath indexPaths ih =>
    by_cases todo : s.ToLoad [] indexPath
    · -- the loop goes on
      obtain ⟨url, hurl⟩ := Option.isSome_iff_exists.mp todo.2.1
      have next : s.prefetch (indexPath :: indexPaths) =
          (s.addOperation indexPath ⟨indexPath, url, .new, none, none⟩).prefetch indexPaths := by
        rw [ImageScreen.prefetch, todo.1, ImageScreen.loadImage, hurl]
        rfl
      set s' := s.addOperation indexPath ⟨indexPath, url, .new, none, none⟩
      have own : ((s'.prefetch indexPaths).loadingOperations indexPath).isSome := by
        rw [(prefetch_frame s' indexPaths).2 indexPath s.operations.length (Function.update_self ..)]
        rfl
      have rest : Together s'.ToLoad indexPaths ↔
          Together (fun before => s.ToLoad (indexPath :: before)) indexPaths := by
        simp only [Together, s', toLoad_addOperation]
      rw [together_cons_of_todo todo, next, List.forall_mem_cons, ← rest, ← ih s']
      exact ⟨fun h => h.2, fun h => ⟨fun _ => own, h⟩⟩
    · rw [together_cons_of_not (fun _ _ h => ⟨h.1, h.2.1, List.not_mem_nil⟩) todo,
        prefetch_stops todo, List.forall_mem_cons]
      simp only [not_toLoad_iff] at todo ⊢
      exact ⟨fun h => h.2, fun h => ⟨todo, h⟩⟩

/-! ### Cancelling -/

/-- The operation with this number is cancelled. -/
def ImageScreen.IsCancelled (s : ImageScreen) (i : ℕ) : Prop :=
  ∀ o ∈ s.operations[i]?, o.operation.isCancelled = true

/-- What cancelling at index paths keeps, and what is cancelled where an entry is gone. -/
structure CancelFrame (s : ImageScreen) (indexPaths : List IndexPath) (s' : ImageScreen) : Prop where
  unlisted : ∀ p ∉ indexPaths, s'.loadingOperations p = s.loadingOperations p
  entry : ∀ p, s'.loadingOperations p = none ∨ s'.loadingOperations p = s.loadingOperations p
  cancelled : ∀ p i, s.loadingOperations p = some i → s'.loadingOperations p = none → s'.IsCancelled i
  stays : ∀ i, s.IsCancelled i → s'.IsCancelled i
  others : ∀ i, (∀ p ∈ indexPaths, s.loadingOperations p ≠ some i) →
    s'.operations[i]? = s.operations[i]?

theorem CancelFrame.refl (s : ImageScreen) (indexPaths : List IndexPath) :
    CancelFrame s indexPaths s where
  unlisted _ _ := rfl
  entry _ := .inr rfl
  cancelled p i h h' := by rw [h] at h'; cases h'
  stays _ h := h
  others _ _ := rfl

theorem CancelFrame.cons {s₁ s₂ : ImageScreen} {indexPaths : List IndexPath}
    (h : CancelFrame s [indexPath] s₁) (h' : CancelFrame s₁ indexPaths s₂) :
    CancelFrame s (indexPath :: indexPaths) s₂ where
  unlisted p hp := by
    rw [List.mem_cons, not_or] at hp
    rw [h'.unlisted p hp.2, h.unlisted p (by simpa using hp.1)]
  entry p := by
    rcases h'.entry p with none | same
    · exact .inl none
    · rw [same]
      exact h.entry p
  cancelled p i hi hnone := by
    rcases h.entry p with gone | same
    · exact h'.stays i (h.cancelled p i hi gone)
    · exact h'.cancelled p i (same.trans hi) hnone
  stays i hi := h'.stays i (h.stays i hi)
  others i hi := by
    rw [List.forall_mem_cons] at hi
    rw [h'.others i fun p hp => ?_, h.others i (by simpa using hi.1)]
    rcases h.entry p with gone | same
    · rw [gone]
      exact nofun
    · rw [same]
      exact hi.2 p hp

theorem cancelAndRemove_frame (hi : s.loadingOperations indexPath = some i) :
    CancelFrame s [indexPath] (s.cancelAndRemove i indexPath) where
  unlisted p hp := Function.update_of_ne (by simpa using hp) ..
  entry p := by
    by_cases hp : p = indexPath
    · subst hp
      exact .inl (Function.update_self ..)
    · exact .inr (Function.update_of_ne hp ..)
  cancelled p j hj hnone := by
    have hp : p = indexPath := by
      by_contra hp
      rw [show (s.cancelAndRemove i indexPath).loadingOperations p = s.loadingOperations p from
        Function.update_of_ne hp .., hj] at hnone
      cases hnone
    obtain rfl : j = i := by rw [hp, hi] at hj; exact (Option.some.inj hj).symm
    intro o ho
    simp only [ImageScreen.cancelAndRemove, ImageScreen.removeValue, List.getElem?_modify] at ho
    obtain ⟨o', -, rfl⟩ := Option.map_eq_some_iff.mp ho
    simp
  stays j hj o ho := by
    simp only [ImageScreen.cancelAndRemove, ImageScreen.removeValue, List.getElem?_modify] at ho
    obtain ⟨o', ho', rfl⟩ := Option.map_eq_some_iff.mp ho
    split
    · rfl
    · exact hj o' ho'
  others j hj := by
    have hne : i ≠ j := by
      rintro rfl
      exact hj indexPath List.mem_cons_self hi
    simp [ImageScreen.cancelAndRemove, ImageScreen.removeValue, hne]

/-- **Cancelling** keeps what is not listed, and cancels what it removes. -/
theorem cancelPrefetching_frame (s : ImageScreen) (indexPaths : List IndexPath) :
    CancelFrame s indexPaths (s.cancelPrefetching indexPaths) := by
  induction indexPaths generalizing s with
  | nil => exact .refl s []
  | cons indexPath indexPaths ih =>
    unfold ImageScreen.cancelPrefetching
    split
    · exact .refl s _
    · exact (cancelAndRemove_frame ‹_›).cons (ih _)

/-- With the entry of one path removed, what is left to cancel is what it was, the path apart. -/
theorem toCancel_cancelAndRemove (before : List IndexPath) (p : IndexPath) :
    (s.cancelAndRemove i indexPath).ToCancel before p ↔ s.ToCancel (indexPath :: before) p := by
  unfold ImageScreen.ToCancel ImageScreen.cancelAndRemove ImageScreen.removeValue
  by_cases hp : p = indexPath
  · subst hp
    simp
  · simp [hp]

theorem not_toCancel_iff (p : IndexPath) : ¬ s.ToCancel [] p ↔ s.loadingOperations p = none := by
  simp [ImageScreen.ToCancel]

/-- **When cancelling serves the whole batch.** -/
theorem cancelPrefetching_removed_iff (s : ImageScreen) (indexPaths : List IndexPath) :
    (∀ p ∈ indexPaths, (s.cancelPrefetching indexPaths).loadingOperations p = none) ↔
      Together s.ToCancel indexPaths := by
  induction indexPaths generalizing s with
  | nil => exact iff_of_true nofun together_nil
  | cons indexPath indexPaths ih =>
    by_cases todo : s.ToCancel [] indexPath
    · -- the loop goes on
      obtain ⟨i, hi⟩ := Option.isSome_iff_exists.mp todo.1
      have next : s.cancelPrefetching (indexPath :: indexPaths) =
          (s.cancelAndRemove i indexPath).cancelPrefetching indexPaths := by
        rw [ImageScreen.cancelPrefetching, hi]
      set s' := s.cancelAndRemove i indexPath
      have own : (s'.cancelPrefetching indexPaths).loadingOperations indexPath = none := by
        have gone : s'.loadingOperations indexPath = none := Function.update_self ..
        rcases (cancelPrefetching_frame s' indexPaths).entry indexPath with none | same
        · exact none
        · rw [same, gone]
      have rest : Together s'.ToCancel indexPaths ↔
          Together (fun before => s.ToCancel (indexPath :: before)) indexPaths := by
        simp only [Together, s', toCancel_cancelAndRemove]
      rw [together_cons_of_todo todo, next, List.forall_mem_cons, ← rest, ← ih s']
      exact ⟨fun h => h.2, fun h => ⟨own, h⟩⟩
    · have stops : s.cancelPrefetching (indexPath :: indexPaths) = s := by
        rw [ImageScreen.cancelPrefetching, (not_toCancel_iff _).mp todo]
      rw [together_cons_of_not (fun _ _ h => ⟨h.1, List.not_mem_nil⟩) todo, stops,
        List.forall_mem_cons]
      simp only [not_toCancel_iff] at todo ⊢
      exact ⟨fun h => h.2, fun h => ⟨todo, h⟩⟩

/-! ### The whole batch -/

/-- Every listed path with an image has an entry, and the earlier entries are the same. -/
def PrefetchedWhole (s : ImageScreen) (indexPaths : List IndexPath) (s' : ImageScreen) : Prop :=
  (∀ p ∈ indexPaths, (s.model p).isSome → (s'.loadingOperations p).isSome) ∧
    s.operations <+: s'.operations ∧
    ∀ p i, s.loadingOperations p = some i → s'.loadingOperations p = some i

/-- No listed path has an entry, every listed operation is cancelled, and what is not listed is
unchanged. -/
def CancelledWhole (s : ImageScreen) (indexPaths : List IndexPath) (s' : ImageScreen) : Prop :=
  (∀ p ∈ indexPaths, s'.loadingOperations p = none ∧
      ∀ i ∈ s.loadingOperations p, s'.IsCancelled i) ∧
    (∀ p ∉ indexPaths, s'.loadingOperations p = s.loadingOperations p) ∧
    ∀ i, (∀ p ∈ indexPaths, s.loadingOperations p ≠ some i) → s'.operations[i]? = s.operations[i]?

/-- **When a batch is served as a whole.** Over any table, model and list of index paths,
prefetching exactly when no path that still has to be loaded stands behind one that has not,
and cancelling likewise. -/
theorem batch_served_iff (s : ImageScreen) (indexPaths : List IndexPath) :
    (PrefetchedWhole s indexPaths (s.prefetch indexPaths) ↔
      ∀ before p after, indexPaths = before ++ p :: after → ¬ s.ToLoad before p →
        ∀ q ∈ after, ¬ s.ToLoad before q) ∧
    (CancelledWhole s indexPaths (s.cancelPrefetching indexPaths) ↔
      ∀ before p after, indexPaths = before ++ p :: after → ¬ s.ToCancel before p →
        ∀ q ∈ after, ¬ s.ToCancel before q) := by
  constructor
  · rw [← Together, ← prefetch_loaded_iff]
    exact ⟨fun h => h.1, fun h => ⟨h, prefetch_frame s indexPaths⟩⟩
  · rw [← Together, ← cancelPrefetching_removed_iff]
    have frame := cancelPrefetching_frame s indexPaths
    exact ⟨fun h p hp => (h.1 p hp).1, fun h =>
      ⟨fun p hp => ⟨h p hp, fun i hi => frame.cancelled p i hi (h p hp)⟩, frame.unlisted, frame.others⟩⟩

/-- Two paths with images; the first is loading. -/
def oneLoading : ImageScreen :=
  (ImageScreen.launch fun p => if p = (0, 0) then some "a" else some "b").prefetch [(0, 0)]

/-- **The rest of a batch is dropped**: prefetching leaves the second path without operation as
the first is loading already, and cancelling leaves the first loading when the second, which
is not, is listed before it. -/
theorem batch_dropped :
    ¬ PrefetchedWhole oneLoading [(0, 0), (0, 1)] (oneLoading.prefetch [(0, 0), (0, 1)]) ∧
      ¬ CancelledWhole oneLoading [(0, 1), (0, 0)]
        (oneLoading.cancelPrefetching [(0, 1), (0, 0)]) := by
  constructor
  · intro h
    exact absurd (h.1 (0, 1) (by decide) (by decide)) (by decide)
  · intro h
    exact absurd (h.1 (0, 0) (by decide)).1 (by decide)

end ArtExhibition
