import ArtExhibition.Machine.Slots
import ArtExhibition.Proof.Operation
import ArtExhibition.Spec.Images

/-!
# The table of the live loads

`Tracked`: every operation that is neither cancelled nor finished is the entry of its index
path. The handlers keep it (`willDisplay_tracked_iff`, `prefetch_tracked`,
`cancelPrefetching_tracked`) but for one case; a completion block, which removes by key alone,
and a late `state = .executing` keep it only if the entry is still the operation's own.

`tracked_iff`: the table tracks the live loads all along a run, and completions remove no
entry but their own, exactly when every step meets `EntryKept`. `completion_removes_other`
is a cell that leaves and comes back: the cancelled load's completion drops the new one's entry.
-/

namespace ArtExhibition

open Machine

/-- Neither cancelled nor finished. -/
def LoadingOperation.live (o : LoadingOperation) : Bool :=
  !o.operation.isCancelled && o.operation.state ≠ .finished

/-- **The table tracks the live loads.** -/
def ImageScreen.Tracked (s : ImageScreen) : Prop :=
  ∀ (i : ℕ) (o : LoadingOperation), s.operations[i]? = some o → o.live → s.loadingOperations o.indexPath = some i

/-- At most one live load at an index path. -/
def ImageScreen.Single (s : ImageScreen) : Prop :=
  ∀ (i j : ℕ) (o o' : LoadingOperation), s.operations[i]? = some o → s.operations[j]? = some o' →
    o.live → o'.live → o.indexPath = o'.indexPath → i = j

theorem ImageScreen.Tracked.of_eq {s s' : ImageScreen} (h : s.Tracked)
    (ho : s'.operations = s.operations) (ht : s'.loadingOperations = s.loadingOperations) : s'.Tracked := by
  unfold ImageScreen.Tracked
  rw [ho, ht]
  exact h

theorem ImageScreen.Tracked.single {s : ImageScreen} (h : s.Tracked) : s.Single := by
  intro i j o o' hi hj hl hl' hp
  have hti := h i o hi hl
  rw [hp, h j o' hj hl', Option.some.injEq] at hti
  exact hti.symm

/-- A completion block removes no entry but that of its own operation. -/
def OwnRemoval (s : ImageScreen) : ImageEvent → Prop
  | .completion i => ∀ o ∈ s.operations[i]?, ∀ block ∈ o.scheduled,
      ∀ j ∈ s.loadingOperations block.indexPath, j = i
  | _ => True

/-- What a step is to keep. -/
structure TableOK (s : ImageScreen) (e : ImageEvent) : Prop where
  tracked : ∀ s' ∈ s.step e, s'.Tracked
  single : ∀ s' ∈ s.step e, s'.Single
  own : OwnRemoval s e

/-- The condition on a step: `willDisplay` finds no image in a load that is still live (its
callback would be between storing the image and finishing); a completion block runs only
if the entry at its path is its own operation's, which is not live, or there is none; and
`start()` writes `.executing` to a finished operation only if this is cancelled or still has its entry. -/
def EntryKept (s : ImageScreen) : ImageEvent → Prop
  | .willDisplay _ indexPath => ∀ d ∈ s.dataLoader indexPath, d.2.operation.image.isSome → d.2.live = false
  | .completion i => ∀ o ∈ s.operations[i]?, ∀ block ∈ o.scheduled,
      ∀ j ∈ s.loadingOperations block.indexPath, j = i ∧ o.live = false
  | .advance i => ∀ o ∈ s.operations[i]?, o.operation.start = .mainReturned →
      o.operation.state = .finished → o.operation.isCancelled = false →
        s.loadingOperations o.indexPath = some i
  | _ => True

instance (s : ImageScreen) : ∀ e : ImageEvent, Decidable (EntryKept s e)
  | .willDisplay _ indexPath => inferInstanceAs (Decidable (∀ d ∈ s.dataLoader indexPath,
      d.2.operation.image.isSome → d.2.live = false))
  | .completion i => inferInstanceAs (Decidable (∀ o ∈ s.operations[i]?, ∀ block ∈ o.scheduled,
      ∀ j ∈ s.loadingOperations block.indexPath, j = i ∧ o.live = false))
  | .advance i => inferInstanceAs (Decidable (∀ o ∈ s.operations[i]?,
      o.operation.start = .mainReturned → o.operation.state = .finished →
        o.operation.isCancelled = false → s.loadingOperations o.indexPath = some i))
  | .didEndDisplaying .. | .prefetch _ | .cancelPrefetching _ | .callback .. | .finish _ | .drain
  | .load _ => .isTrue trivial

/-! ## What always holds -/

/-- Blocks are for their operation's index path. -/
def LoadingOperation.Keyed (o : LoadingOperation) : Prop :=
  (∀ block ∈ o.completionBlock, block.indexPath = o.indexPath) ∧
    ∀ block ∈ o.scheduled, block.indexPath = o.indexPath

/-- Entries are operations of their index path. -/
structure ImageScreen.Keyed (s : ImageScreen) : Prop where
  entry : ∀ indexPath i, s.loadingOperations indexPath = some i →
    ∃ o, s.operations[i]? = some o ∧ o.indexPath = indexPath
  block : ∀ o ∈ s.operations, o.Keyed

theorem launch_keyed (model : IndexPath → Option URL) : (ImageScreen.launch model).Keyed :=
  ⟨by simp [ImageScreen.launch], by simp [ImageScreen.launch]⟩

variable {s s' : ImageScreen} {i : ℕ} {o o' : LoadingOperation} {indexPath : IndexPath}

theorem ImageScreen.Keyed.of_eq (h : s.Keyed) (ho : s'.operations = s.operations)
    (ht : s'.loadingOperations = s.loadingOperations) : s'.Keyed :=
  ⟨by rw [ho, ht]; exact h.entry, by rw [ho]; exact h.block⟩

theorem ImageScreen.Keyed.setOperation (h : s.Keyed) (hi : s.operations[i]? = some o)
    (hp : o'.indexPath = o.indexPath) (ho : o'.Keyed) : (s.setOperation i o').Keyed := by
  refine ⟨fun indexPath j hj => ?_, forall_mem_set_of h.block ho⟩
  obtain ⟨x, hx, hxp⟩ := h.entry indexPath j hj
  by_cases hij : i = j
  · subst hij
    rw [hi, Option.some.injEq] at hx
    subst hx
    exact ⟨o', by simp [ImageScreen.setOperation, (List.getElem?_eq_some_iff.1 hi).1], hp.trans hxp⟩
  · exact ⟨x, by simpa [ImageScreen.setOperation, List.getElem?_set, hij] using hx, hxp⟩

theorem ImageScreen.Keyed.removeValue (h : s.Keyed) (indexPath : IndexPath) :
    (s.removeValue indexPath).Keyed := by
  refine ⟨fun p j hj => ?_, h.block⟩
  by_cases hp : p = indexPath
  · subst hp; simp [ImageScreen.removeValue] at hj
  · exact h.entry p j (by simpa [ImageScreen.removeValue, hp] using hj)

theorem ImageScreen.Keyed.addOperation (h : s.Keyed) (hp : o.indexPath = indexPath) (ho : o.Keyed) :
    (s.addOperation indexPath o).Keyed := by
  refine ⟨fun p j hj => ?_, forall_mem_snoc_iff.2 ⟨h.block, ho⟩⟩
  by_cases hpp : p = indexPath
  · subst hpp
    obtain rfl : s.operations.length = j := by simpa [ImageScreen.addOperation] using hj
    exact ⟨o, by simp [ImageScreen.addOperation], hp⟩
  · obtain ⟨x, hx, hxp⟩ := h.entry p j (by simpa [ImageScreen.addOperation, hpp] using hj)
    have hlt := (List.getElem?_eq_some_iff.1 hx).1
    exact ⟨x, by simpa [ImageScreen.addOperation, List.getElem?_append_left hlt] using hx, hxp⟩

/-- Cancelling the table's operation and removing its entry. -/
theorem cancelAndRemove_eq (hi : s.operations[i]? = some o) (indexPath : IndexPath) :
    s.cancelAndRemove i indexPath =
      (s.setOperation i { o with operation := { o.operation with isCancelled := true } }).removeValue
        indexPath := by
  have hset : (s.operations.modify i fun o => { o with operation := { o.operation with isCancelled := true } }) =
      s.operations.set i { o with operation := { o.operation with isCancelled := true } } := by
    rw [List.modify_eq_set_getElem?, hi]
    rfl
  unfold ImageScreen.cancelAndRemove ImageScreen.setOperation
  rw [hset]

theorem ImageScreen.Keyed.cancelAndRemove (h : s.Keyed) (hp : s.loadingOperations indexPath = some i) :
    (s.cancelAndRemove i indexPath).Keyed := by
  obtain ⟨o, hi, -⟩ := h.entry indexPath i hp
  rw [cancelAndRemove_eq hi]
  refine ImageScreen.Keyed.removeValue ?_ indexPath
  exact h.setOperation hi rfl (h.block o (mem_of_slot hi))

theorem loadImage_eq_some (h : s.loadImage indexPath = some o) :
    o.indexPath = indexPath ∧ o.completionBlock = none ∧ o.scheduled = none := by
  obtain ⟨url, -, rfl⟩ := Option.map_eq_some_iff.1 h
  exact ⟨rfl, rfl, rfl⟩

theorem dataLoader_eq_some (h : s.dataLoader indexPath = some (i, o)) :
    s.loadingOperations indexPath = some i ∧ s.operations[i]? = some o := by
  simp only [ImageScreen.dataLoader, Option.bind_eq_some_iff, Option.map_eq_some_iff, Prod.mk.injEq] at h
  obtain ⟨j, hj, x, hx, rfl, rfl⟩ := h
  exact ⟨hj, hx⟩

/-- An entry has its operation, so the table shows none only where it has no entry. -/
theorem ImageScreen.Keyed.dataLoader_eq_none (hk : s.Keyed) (h : s.dataLoader indexPath = none) :
    s.loadingOperations indexPath = none := by
  cases hp : s.loadingOperations indexPath with
  | none => rfl
  | some i =>
    obtain ⟨o, hi, -⟩ := hk.entry indexPath i hp
    simp [ImageScreen.dataLoader, hp, hi] at h

theorem willDisplay_keyed (h : s.Keyed) (cell : Cell) (indexPath : IndexPath) :
    (s.willDisplay cell indexPath).Keyed := by
  unfold ImageScreen.willDisplay
  split
  · rename_i i o hd
    obtain ⟨hp, hi⟩ := dataLoader_eq_some hd
    obtain ⟨x, hx, hxp⟩ := h.entry indexPath i hp
    rw [hi, Option.some.injEq] at hx
    subst hx
    split
    · refine ImageScreen.Keyed.removeValue ?_ indexPath
      exact h.of_eq rfl rfl
    · refine h.setOperation hi rfl ⟨?_, (h.block o (mem_of_slot hi)).2⟩
      rintro block ⟨⟩
      exact hxp.symm
  · split
    · rename_i o ho
      obtain ⟨hop, -, hos⟩ := loadImage_eq_some ho
      refine h.addOperation hop ⟨?_, by simp [hos]⟩
      rintro block ⟨⟩
      exact hop.symm
    · exact h

/-- **What every added load keeps**, prefetching a batch keeps. -/
theorem prefetch_induction {P : ImageScreen → Prop}
    (add : ∀ s indexPath o, P s → s.loadingOperations indexPath = none → s.loadImage indexPath = some o →
      P (s.addOperation indexPath o)) (h : P s) (indexPaths : List IndexPath) :
    P (s.prefetch indexPaths) := by
  induction indexPaths generalizing s with
  | nil => exact h
  | cons indexPath indexPaths ih =>
    unfold ImageScreen.prefetch
    split
    · exact h
    · exact h
    · rename_i o hnone ho
      exact ih (add s indexPath o h hnone ho)

theorem cancelPrefetching_induction {P : ImageScreen → Prop}
    (cancel : ∀ s i indexPath, P s → s.loadingOperations indexPath = some i →
      P (s.cancelAndRemove i indexPath)) (h : P s) (indexPaths : List IndexPath) :
    P (s.cancelPrefetching indexPaths) := by
  induction indexPaths generalizing s with
  | nil => exact h
  | cons indexPath indexPaths ih =>
    unfold ImageScreen.cancelPrefetching
    split
    · exact h
    · rename_i i hp
      exact ih (cancel s i indexPath h hp)

theorem prefetch_keyed (h : s.Keyed) (indexPaths : List IndexPath) : (s.prefetch indexPaths).Keyed := by
  refine prefetch_induction (fun s indexPath o hs _ ho => ?_) h indexPaths
  obtain ⟨hop, hob, hos⟩ := loadImage_eq_some ho
  exact hs.addOperation hop ⟨by simp [hob], by simp [hos]⟩

theorem cancelPrefetching_keyed (h : s.Keyed) (indexPaths : List IndexPath) :
    (s.cancelPrefetching indexPaths).Keyed :=
  cancelPrefetching_induction (fun _ _ _ hs hp => hs.cancelAndRemove hp) h indexPaths

theorem didEndDisplaying_keyed (h : s.Keyed) (indexPath : IndexPath) :
    (s.didEndDisplaying indexPath).Keyed := by
  unfold ImageScreen.didEndDisplaying
  split
  · exact h
  · rename_i i hp
    exact h.cancelAndRemove hp

/-- A step of an operation keeps its index path and its blocks. -/
theorem operate_keyed (h : s.Keyed) (hi : s.operations[i]? = some o) {e : OperationEvent URL}
    (hs : s.operate i o e = some s') : s'.Keyed := by
  obtain ⟨operation, -, rfl⟩ := Option.map_eq_some_iff.1 hs
  obtain ⟨hb, hsch⟩ := h.block o (mem_of_slot hi)
  refine h.setOperation hi rfl ⟨hb, ?_⟩
  dsimp only
  split
  · exact hb
  · exact hsch

/-- **What one event does**, handler by handler. -/
theorem imageScreen_step_cases {e : ImageEvent} (hs : s.step e = some s') :
    match e with
    | .willDisplay cell indexPath => (∀ d ∈ s.displayed, d.1 ≠ cell) ∧
        s' = { s with displayed := (cell, indexPath) :: s.displayed }.willDisplay cell indexPath
    | .didEndDisplaying cell indexPath =>
        s' = { s with displayed := s.displayed.erase (cell, indexPath) }.didEndDisplaying indexPath
    | .prefetch indexPaths => s' = s.prefetch indexPaths
    | .cancelPrefetching indexPaths => s' = s.cancelPrefetching indexPaths
    | .advance i => ∃ o, s.operations[i]? = some o ∧ s.operate i o .advance = some s'
    | .callback i payload => ∃ o, s.operations[i]? = some o ∧
        s.operate i o (.callback (payload.of o.url)) = some s'
    | .finish i => ∃ o, s.operations[i]? = some o ∧ s.operate i o .finish = some s'
    | .completion i => ∃ o block, s.operations[i]? = some o ∧ o.scheduled = some block ∧
        s' = ((s.setOperation i { o with scheduled := none }).setupImage block.cell
          o.operation.image).removeValue block.indexPath
    | .drain => ∃ cell image queue, s.mainQueue = (cell, image) :: queue ∧
        s' = { s with mainQueue := queue, picture := Function.update s.picture cell (.of image) }
    | .load model => s' = { s with model := model } := by
  cases e with
  | willDisplay cell indexPath =>
    simp only [ImageScreen.step, Option.ite_none_right_eq_some, Option.some.injEq] at hs
    exact ⟨hs.1, hs.2.symm⟩
  | didEndDisplaying cell indexPath =>
    simp only [ImageScreen.step, Option.ite_none_right_eq_some, Option.some.injEq] at hs
    exact hs.2.symm
  | prefetch indexPaths => exact (Option.some.inj hs).symm
  | cancelPrefetching indexPaths => exact (Option.some.inj hs).symm
  | advance i => exact Option.bind_eq_some_iff.1 hs
  | callback i payload => exact Option.bind_eq_some_iff.1 hs
  | finish i => exact Option.bind_eq_some_iff.1 hs
  | completion i =>
    obtain ⟨o, hi, hs⟩ := Option.bind_eq_some_iff.1 hs
    obtain ⟨block, hb, hs⟩ := Option.bind_eq_some_iff.1 hs
    exact ⟨o, block, hi, hb, (Option.some.inj hs).symm⟩
  | drain =>
    simp only [ImageScreen.step] at hs
    split at hs
    · cases hs
    · rename_i cell image queue hq
      exact ⟨cell, image, queue, hq, (Option.some.inj hs).symm⟩
  | load model => exact (Option.some.inj hs).symm

/-- **Keys and blocks agree in every reachable state.** -/
theorem step_keyed (s : ImageScreen) (e : ImageEvent) (s' : ImageScreen) (h : s.Keyed)
    (hs : s.step e = some s') : s'.Keyed := by
  have hcases := imageScreen_step_cases hs
  cases e with
  | willDisplay cell indexPath =>
    obtain ⟨-, rfl⟩ := hcases
    have hdisplayed : ({ s with displayed := (cell, indexPath) :: s.displayed } : ImageScreen).Keyed :=
      h.of_eq rfl rfl
    exact willDisplay_keyed hdisplayed cell indexPath
  | didEndDisplaying cell indexPath =>
    rw [hcases]
    have hdisplayed : ({ s with displayed := s.displayed.erase (cell, indexPath) } : ImageScreen).Keyed :=
      h.of_eq rfl rfl
    exact didEndDisplaying_keyed hdisplayed indexPath
  | prefetch indexPaths =>
    rw [hcases]
    exact prefetch_keyed h indexPaths
  | cancelPrefetching indexPaths =>
    rw [hcases]
    exact cancelPrefetching_keyed h indexPaths
  | advance i | callback i payload | finish i =>
    obtain ⟨o, hi, hoperate⟩ := hcases
    exact operate_keyed h hi hoperate
  | completion i =>
    obtain ⟨o, block, hi, -, rfl⟩ := hcases
    have hset : (s.setOperation i { o with scheduled := none }).Keyed :=
      h.setOperation hi rfl ⟨(h.block o (mem_of_slot hi)).1, nofun⟩
    have hqueued : ((s.setOperation i { o with scheduled := none }).setupImage block.cell
        o.operation.image).Keyed := hset.of_eq rfl rfl
    exact hqueued.removeValue block.indexPath
  | drain =>
    obtain ⟨cell, image, queue, -, rfl⟩ := hcases
    exact h.of_eq rfl rfl
  | load model =>
    rw [hcases]
    exact h.of_eq rfl rfl

/-! ## What keeps the table -/

theorem tracked_setOperation_iff (h : s.Tracked) (hi : s.operations[i]? = some o) :
    (s.setOperation i o').Tracked ↔ (o'.live → s.loadingOperations o'.indexPath = some i) := by
  constructor
  · intro ht hl
    exact ht i o' (by simp [ImageScreen.setOperation, (List.getElem?_eq_some_iff.1 hi).1]) hl
  · intro ho j x hx hl
    by_cases hij : i = j
    · subst hij
      obtain rfl : o' = x := by
        simpa [ImageScreen.setOperation, (List.getElem?_eq_some_iff.1 hi).1] using hx
      exact ho hl
    · exact h j x (by simpa [ImageScreen.setOperation, List.getElem?_set, hij] using hx) hl

/-- Removing an entry loses track of a load exactly when it was that of a live one. -/
theorem tracked_removeValue_iff (h : s.Tracked) (hk : s.Keyed) :
    (s.removeValue indexPath).Tracked ↔
      ∀ i ∈ s.loadingOperations indexPath, ∀ o ∈ s.operations[i]?, o.live = false := by
  constructor
  · intro ht i hp o ho
    by_contra hl
    obtain ⟨x, hx, hxp⟩ := hk.entry indexPath i hp
    obtain rfl : x = o := Option.some.inj (hx.symm.trans ho)
    have hti := ht i x hx (by simpa using hl)
    simp [ImageScreen.removeValue, hxp] at hti
  · intro hdead j x hx hl
    have hj := h j x hx hl
    -- a live load elsewhere keeps its entry; here there is none
    have hne : x.indexPath ≠ indexPath := by
      rintro rfl
      have hfalse := hdead j hj x hx
      rw [hl] at hfalse
      cases hfalse
    simpa [ImageScreen.removeValue, hne] using hj

theorem addOperation_tracked (h : s.Tracked) (hp : o.indexPath = indexPath)
    (hnone : s.loadingOperations indexPath = none) : (s.addOperation indexPath o).Tracked := by
  intro j x hx hl
  rcases Nat.lt_or_ge j s.operations.length with hlt | hge
  · have hx' : s.operations[j]? = some x := by
      simpa [ImageScreen.addOperation, List.getElem?_append_left hlt] using hx
    have hj := h j x hx' hl
    have hne : x.indexPath ≠ indexPath := by
      rintro rfl
      rw [hnone] at hj
      cases hj
    simpa [ImageScreen.addOperation, hne] using hj
  · obtain ⟨rfl, rfl⟩ : j = s.operations.length ∧ o = x := by
      simp only [ImageScreen.addOperation, List.getElem?_append_right hge] at hx
      rw [List.getElem?_eq_some_iff] at hx
      obtain ⟨hlen, hx⟩ := hx
      simp only [List.length_singleton] at hlen
      exact ⟨by omega, by simpa using hx⟩
    simp [ImageScreen.addOperation, hp]

/-- A cancelled load is not live, so its entry may go. -/
theorem cancelAndRemove_tracked (h : s.Tracked) (hk : s.Keyed)
    (hp : s.loadingOperations indexPath = some i) : (s.cancelAndRemove i indexPath).Tracked := by
  obtain ⟨o, hi, hop⟩ := hk.entry indexPath i hp
  rw [cancelAndRemove_eq hi]
  have ht : (s.setOperation i
      { o with operation := { o.operation with isCancelled := true } }).Tracked := by
    rw [tracked_setOperation_iff h hi]
    simp [LoadingOperation.live]
  have hk' : (s.setOperation i
      { o with operation := { o.operation with isCancelled := true } }).Keyed :=
    hk.setOperation hi rfl (hk.block o (mem_of_slot hi))
  refine (tracked_removeValue_iff ht hk').2 fun j hj x hx => ?_
  obtain rfl : i = j := Option.some.inj (hp.symm.trans hj)
  obtain rfl : { o with operation := { o.operation with isCancelled := true } } = x := by
    simpa [ImageScreen.setOperation, (List.getElem?_eq_some_iff.1 hi).1] using hx
  rfl

theorem prefetch_tracked (h : s.Tracked) (indexPaths : List IndexPath) :
    (s.prefetch indexPaths).Tracked := by
  refine prefetch_induction (fun s indexPath o hs hnone ho => ?_) h indexPaths
  exact addOperation_tracked hs (loadImage_eq_some ho).1 hnone

theorem cancelPrefetching_tracked (h : s.Tracked) (hk : s.Keyed) (indexPaths : List IndexPath) :
    (s.cancelPrefetching indexPaths).Tracked := by
  have hboth : (s.cancelPrefetching indexPaths).Tracked ∧ (s.cancelPrefetching indexPaths).Keyed := by
    refine cancelPrefetching_induction (P := fun s => s.Tracked ∧ s.Keyed)
      (fun s i indexPath hs hp => ?_) ⟨h, hk⟩ indexPaths
    exact ⟨cancelAndRemove_tracked hs.1 hs.2 hp, hs.2.cancelAndRemove hp⟩
  exact hboth.1

theorem didEndDisplaying_tracked (h : s.Tracked) (hk : s.Keyed) (indexPath : IndexPath) :
    (s.didEndDisplaying indexPath).Tracked := by
  unfold ImageScreen.didEndDisplaying
  split
  · exact h
  · rename_i i hp
    exact cancelAndRemove_tracked h hk hp

/-- **`willDisplay`** drops a live load exactly when it finds an image in one. -/
theorem willDisplay_tracked_iff (h : s.Tracked) (hk : s.Keyed) (cell : Cell) (indexPath : IndexPath) :
    (s.willDisplay cell indexPath).Tracked ↔
      ∀ d ∈ s.dataLoader indexPath, d.2.operation.image.isSome → d.2.live = false := by
  unfold ImageScreen.willDisplay
  cases hd : s.dataLoader indexPath with
  | none =>
    have hvacuous : ∀ d ∈ (none : Option (ℕ × LoadingOperation)),
        d.2.operation.image.isSome → d.2.live = false := fun d hd => absurd hd (Option.not_mem_none d)
    refine iff_of_true ?_ hvacuous
    dsimp only
    split
    · rename_i o ho
      exact addOperation_tracked h (loadImage_eq_some ho).1 (hk.dataLoader_eq_none hd)
    · exact h
  | some d =>
    obtain ⟨i, o⟩ := d
    obtain ⟨hp, hi⟩ := dataLoader_eq_some hd
    dsimp only
    cases himage : o.operation.image with
    | none =>
      refine iff_of_true ?_ ?_
      · -- only the completion block is new
        rw [tracked_setOperation_iff h hi]
        exact h i o hi
      · rintro d ⟨⟩ hsome
        simp [himage] at hsome
    | some image =>
      have ht : (s.setupImage cell (some image)).Tracked := h.of_eq rfl rfl
      have hk' : (s.setupImage cell (some image)).Keyed := hk.of_eq rfl rfl
      dsimp only
      rw [tracked_removeValue_iff ht hk']
      simp [ImageScreen.setupImage, hp, hi, himage]

/-- **A completion block** drops no live load and no other entry exactly when the entry at
its path, if any, is its own operation's and not live. -/
theorem completion_tracked_iff (h : s.Tracked) (hk : s.Keyed) (hi : s.operations[i]? = some o)
    (block : CompletionBlock) :
    ((((s.setOperation i { o with scheduled := none }).setupImage block.cell
          o.operation.image).removeValue block.indexPath).Tracked ∧
        ∀ j ∈ s.loadingOperations block.indexPath, j = i) ↔
      ∀ j ∈ s.loadingOperations block.indexPath, j = i ∧ o.live = false := by
  have ht : (s.setOperation i { o with scheduled := none }).Tracked := by
    refine (tracked_setOperation_iff h hi).2 ?_
    exact h i o hi
  have hk' : (s.setOperation i { o with scheduled := none }).Keyed :=
    hk.setOperation hi rfl ⟨(hk.block o (mem_of_slot hi)).1, nofun⟩
  have hown : (s.operations.set i { o with scheduled := none })[i]? = some { o with scheduled := none } := by
    simp [(List.getElem?_eq_some_iff.1 hi).1]
  rw [tracked_removeValue_iff
    (s := (s.setOperation i { o with scheduled := none }).setupImage block.cell o.operation.image)
    (ht.of_eq rfl rfl) (hk'.of_eq rfl rfl)]
  constructor
  · rintro ⟨hdead, hj⟩ j hp
    obtain rfl := hj j hp
    exact ⟨rfl, hdead j hp { o with scheduled := none } hown⟩
  · refine fun hj => ⟨fun j hp x hx => ?_, fun j hp => (hj j hp).1⟩
    obtain ⟨rfl, hl⟩ := hj j hp
    obtain rfl := Option.some.inj (hown.symm.trans hx)
    exact hl

/-- **A step of `start()`** makes a load live again, out of the table, exactly in one case. -/
theorem advance_tracked_iff (h : s.Tracked) (hi : s.operations[i]? = some o)
    (hs : s.operate i o .advance = some s') :
    s'.Tracked ↔ (o.operation.start = .mainReturned → o.operation.state = .finished →
      o.operation.isCancelled = false → s.loadingOperations o.indexPath = some i) := by
  obtain ⟨operation, hstep, rfl⟩ := Option.map_eq_some_iff.1 hs
  rw [tracked_setOperation_iff h hi]
  have hlive : o.live → s.loadingOperations o.indexPath = some i := h i o hi
  simp only [LoadingOperation.live, Bool.and_eq_true, Bool.not_eq_true', decide_eq_true_eq] at hlive ⊢
  rcases operation_advance_cases hstep with ⟨hst, hc, rfl⟩ | ⟨hst, rfl⟩ | ⟨hst, -, rfl⟩ | ⟨hst, -, rfl⟩ |
    ⟨hst, rfl⟩ | ⟨hst, rfl⟩
  · simp [hst, hc]
  · simpa [hst] using hlive
  · simpa [hst] using hlive
  · simpa [hst] using hlive
  · simpa [hst] using hlive
  · -- `state = .executing` over a finished download is the one way back to live
    by_cases hf : o.operation.state = .finished
    · simp [hst, hf]
    · simpa [hst, hf] using hlive

/-- The download's callback makes no load live. -/
theorem operate_tracked (h : s.Tracked) (hi : s.operations[i]? = some o) {e : OperationEvent URL}
    (hs : s.operate i o e = some s')
    (he : ∀ operation, o.operation.step e = some operation →
      operation.isCancelled = o.operation.isCancelled ∧
        (operation.state = o.operation.state ∨ operation.state = .finished)) : s'.Tracked := by
  obtain ⟨operation, hstep, rfl⟩ := Option.map_eq_some_iff.1 hs
  refine (tracked_setOperation_iff h hi).2 fun hl => h i o hi ?_
  obtain ⟨hc, hstate⟩ := he operation hstep
  simp only [LoadingOperation.live, Bool.and_eq_true, Bool.not_eq_true', decide_eq_true_eq] at hl ⊢
  rcases hstate with hstate | hstate
  · exact ⟨hc ▸ hl.1, hstate ▸ hl.2⟩
  · exact (hl.2 hstate).elim

/-- **One step** keeps the table exactly when it meets the condition. -/
theorem tableOK_iff (s : ImageScreen) (e : ImageEvent) (s' : ImageScreen) (h : s.Keyed ∧ s.Tracked)
    (hs : s.step e = some s') : TableOK s e ↔ EntryKept s e := by
  obtain ⟨hk, ht⟩ := h
  have hok : TableOK s e ↔ s'.Tracked ∧ OwnRemoval s e := by
    constructor
    · exact fun h => ⟨h.tracked s' hs, h.own⟩
    · rintro ⟨ht', hown⟩
      have htracked : ∀ x ∈ s.step e, x.Tracked := by
        intro x hx
        obtain rfl := Option.some.inj (hs.symm.trans hx)
        exact ht'
      exact ⟨htracked, fun x hx => (htracked x hx).single, hown⟩
  rw [hok]
  have hcases := imageScreen_step_cases hs
  cases e with
  | willDisplay cell indexPath =>
    obtain ⟨-, rfl⟩ := hcases
    simp only [OwnRemoval, and_true]
    have ht' : ({ s with displayed := (cell, indexPath) :: s.displayed } : ImageScreen).Tracked :=
      ht.of_eq rfl rfl
    have hk' : ({ s with displayed := (cell, indexPath) :: s.displayed } : ImageScreen).Keyed :=
      hk.of_eq rfl rfl
    exact willDisplay_tracked_iff ht' hk' cell indexPath
  | didEndDisplaying cell indexPath =>
    have ht' : ({ s with displayed := s.displayed.erase (cell, indexPath) } : ImageScreen).Tracked :=
      ht.of_eq rfl rfl
    have hk' : ({ s with displayed := s.displayed.erase (cell, indexPath) } : ImageScreen).Keyed :=
      hk.of_eq rfl rfl
    rw [hcases]
    exact iff_of_true ⟨didEndDisplaying_tracked ht' hk' indexPath, trivial⟩ trivial
  | prefetch indexPaths =>
    rw [hcases]
    exact iff_of_true ⟨prefetch_tracked ht indexPaths, trivial⟩ trivial
  | cancelPrefetching indexPaths =>
    rw [hcases]
    exact iff_of_true ⟨cancelPrefetching_tracked ht hk indexPaths, trivial⟩ trivial
  | advance i =>
    obtain ⟨o, hi, hoperate⟩ := hcases
    rw [advance_tracked_iff ht hi hoperate]
    simp [EntryKept, OwnRemoval, hi]
  | callback i payload =>
    obtain ⟨o, hi, hoperate⟩ := hcases
    refine iff_of_true ⟨operate_tracked ht hi hoperate ?_, trivial⟩ trivial
    intro operation hstep
    obtain ⟨-, ⟨image, -, rfl⟩ | ⟨-, rfl⟩⟩ := callback_cases hstep
    · exact ⟨rfl, .inl rfl⟩
    · exact ⟨rfl, .inl rfl⟩
  | finish i =>
    obtain ⟨o, hi, hoperate⟩ := hcases
    refine iff_of_true ⟨operate_tracked ht hi hoperate ?_, trivial⟩ trivial
    intro operation hstep
    obtain ⟨-, rfl⟩ := finish_cases hstep
    exact ⟨rfl, .inr rfl⟩
  | completion i =>
    obtain ⟨o, block, hi, hb, rfl⟩ := hcases
    have hiff := completion_tracked_iff ht hk hi block
    simpa [OwnRemoval, EntryKept, hi, hb] using hiff
  | drain =>
    obtain ⟨cell, image, queue, -, rfl⟩ := hcases
    exact iff_of_true ⟨ht.of_eq rfl rfl, trivial⟩ trivial
  | load model =>
    rw [hcases]
    exact iff_of_true ⟨ht.of_eq rfl rfl, trivial⟩ trivial

/-- **The table tracks exactly the live loads, exactly when each entry is kept for its own.**
Over any model and any run, reloads of the model included. -/
theorem tracked_iff (model : IndexPath → Option URL) {es : List ImageEvent} {s : ImageScreen}
    (h : run ImageScreen.step (.launch model) es = some s) :
    Along ImageScreen.step TableOK (.launch model) es ↔
      Along ImageScreen.step EntryKept (.launch model) es :=
  along_iff_of_kept (P := fun s : ImageScreen => s.Keyed ∧ s.Tracked)
    (fun s e s' hs hok hstep => ⟨step_keyed s e s' hs.1 hstep, hok.tracked s' hstep⟩)
    tableOK_iff es ⟨launch_keyed model, by simp [ImageScreen.Tracked, ImageScreen.launch]⟩ h

/-- Three records with images; the third has that of the first. -/
def someImages : IndexPath → Option URL
  | (0, 0) => some "a"
  | (0, 1) => some "b"
  | (0, 2) => some "a"
  | _ => none

/-- Operation `i` runs to its end, and so do its completion block and the image block. -/
def loads (i : ℕ) : List ImageEvent :=
  [.advance i, .advance i, .advance i, .advance i, .callback i ⟨some "/tmp/x", none, some ()⟩,
    .finish i, .completion i, .drain]

/-- A cell loads its image while the next one's is prefetched, which it then shows. -/
def scrollRun : List ImageEvent :=
  .willDisplay 0 (0, 0) :: .prefetch [(0, 1)] :: loads 0 ++
    .willDisplay 1 (0, 1) :: loads 1 ++ [.didEndDisplaying 0 (0, 0)]

theorem tracked_scroll : Along ImageScreen.step TableOK (.launch someImages) scrollRun := by
  obtain ⟨s, h⟩ : ∃ s, run ImageScreen.step (.launch someImages) scrollRun = some s := ⟨_, rfl⟩
  exact (tracked_iff someImages h).2 (by decide)

/-- **A cancelled load removes the new load's entry**: a cell leaves before its load has
started and comes back; the cancelled operation finishes in `start()`, and its completion
block removes the entry of the operation made since, which goes on untracked. -/
theorem completion_removes_other :
    ¬ Along ImageScreen.step TableOK (.launch someImages)
      ([.willDisplay 0 (0, 0), .didEndDisplaying 0 (0, 0), .willDisplay 0 (0, 0), .advance 0] ++
        [.completion 0]) := by
  intro h
  have hlast := ((along_snoc rfl).1 h).2
  have hown : 1 = 0 := hlast.own _ rfl _ rfl 1 rfl
  exact absurd hown (by decide)

end ArtExhibition
