import ArtExhibition.Proof.OperationImage
import ArtExhibition.Proof.Pictures
import ArtExhibition.Proof.Prefetch

/-!
# Which cells get the image of their record

A cell on screen is served (`Served`) if it has the image of its record, or an operation delivers it.
`allServed_iff`: a step leaves every cell on screen served exactly when it meets `KeepsServed`. The steps
that may not are those that lose an operation's image, take its block for another cell, or give a cell the
image of another record. A load of the model is one of the steps if the records on screen keep their
images (`KeepsRecords`); where one gets a new image, its cell has that by chance only.
-/

namespace ArtExhibition

open Machine

variable {o : LoadingOperation}

/-- Operation `i` gives a cell, displayed at an index path, the image of a URL. -/
def ImageScreen.Delivers (s : ImageScreen) (i : ℕ) (d : Cell × IndexPath) (url : URL) : Prop :=
  ∃ o ∈ s.operations[i]?, o.Delivers d url

instance (s : ImageScreen) (i : ℕ) (d : Cell × IndexPath) (url : URL) : Decidable (s.Delivers i d url) :=
  inferInstanceAs (Decidable (∃ o ∈ s.operations[i]?, o.Delivers d url))

/-- One of these operations does. -/
def ImageScreen.Comes (s : ImageScreen) (among : ℕ → Prop) (d : Cell × IndexPath) (url : URL) : Prop :=
  ∃ i, among i ∧ s.Delivers i d url

instance (s : ImageScreen) (among : ℕ → Prop) [DecidablePred among] (d : Cell × IndexPath) (url : URL) :
    Decidable (s.Comes among d url) :=
  decidable_of_iff (∃ i ∈ List.range s.operations.length, among i ∧ s.Delivers i d url) <| by
    refine exists_congr fun i => and_iff_right_of_imp ?_
    rintro ⟨-, o, ho, -⟩
    exact List.mem_range.2 (List.getElem?_eq_some_iff.1 ho).1

/-- A cell has the image of its record, or gets it from one of these operations. -/
def ImageScreen.ServedBy (s : ImageScreen) (among : ℕ → Prop) (d : Cell × IndexPath) : Prop :=
  ∀ url ∈ s.model d.2, s.drained d.1 = .image url ∨ s.Comes among d url

instance (s : ImageScreen) (among : ℕ → Prop) [DecidablePred among] (d : Cell × IndexPath) :
    Decidable (s.ServedBy among d) :=
  inferInstanceAs (Decidable (∀ url ∈ s.model d.2, s.drained d.1 = .image url ∨ s.Comes among d url))

/-- **A cell is served**: it has the image of its record, or gets it. -/
abbrev ImageScreen.Served (s : ImageScreen) (d : Cell × IndexPath) : Prop := s.ServedBy (fun _ => True) d

/-- A cell is served without operation `i`. -/
abbrev ImageScreen.ServedWithout (s : ImageScreen) (i : ℕ) (d : Cell × IndexPath) : Prop :=
  s.ServedBy (· ≠ i) d

/-- **Every cell on screen is served.** -/
def ImageScreen.AllServed (s : ImageScreen) : Prop := ∀ d ∈ s.displayed, s.Served d

instance (s : ImageScreen) : Decidable s.AllServed :=
  inferInstanceAs (Decidable (∀ d ∈ s.displayed, s.Served d))

/-- A cancellation of operation `i` would still be seen. -/
def ImageScreen.Stoppable (s : ImageScreen) (i : ℕ) : Prop :=
  ∃ o ∈ s.operations[i]?, o.operation.stoppable = true

instance (s : ImageScreen) (i : ℕ) : Decidable (s.Stoppable i) :=
  inferInstanceAs (Decidable (∃ o ∈ s.operations[i]?, o.operation.stoppable = true))

/-- A new model has the same image for every record on screen, or none any more. -/
def ImageScreen.RecordsKept (s : ImageScreen) (model : IndexPath → Option URL) : Prop :=
  ∀ d ∈ s.displayed, ∀ url ∈ model d.2, url ∈ s.model d.2

instance (s : ImageScreen) (model : IndexPath → Option URL) : Decidable (s.RecordsKept model) :=
  inferInstanceAs (Decidable (∀ d ∈ s.displayed, ∀ url ∈ model d.2, url ∈ s.model d.2))

/-- The condition on the loads of the model alone. -/
def KeepsRecords (s : ImageScreen) (e : ImageEvent) : Prop := ∀ model, e = .load model → s.RecordsKept model

/-- The condition on a step. A cell that comes on screen over an entry of the table finds its image
there, or a load that still downloads it, and takes no block that a cell on screen needs; a load that is
stopped or fails is not the only one for a cell on screen; a completion block has the image of the record
that its cell shows, or that image is still to come; and a load of the model leaves the records on screen
their images. -/
def KeepsServed (s : ImageScreen) : ImageEvent → Prop
  | .willDisplay cell indexPath => ∀ l ∈ s.dataLoader indexPath,
      (l.2.operation.image = none → ∀ d ∈ s.displayed, s.ServedWithout l.1 d) ∧
      ∀ url ∈ s.model indexPath, s.brought cell indexPath = .image url ∨
        (l.2.operation.image = none ∧ l.2.url = url ∧ l.2.operation.downloads = true) ∨
        s.Comes (· ≠ l.1) (cell, indexPath) url
  | .didEndDisplaying cell indexPath => ∀ i ∈ s.loadingOperations indexPath, s.Stoppable i →
      ∀ d ∈ s.displayed.erase (cell, indexPath), s.ServedWithout i d
  | .cancelPrefetching indexPaths => ∀ d ∈ s.displayed, ∀ i ∈ s.loadingOperations d.2,
      (s.cancelPrefetching indexPaths).loadingOperations d.2 = none → s.Stoppable i → s.ServedWithout i d
  | .callback i payload => payload.decodedImage = none → ∀ d ∈ s.displayed, s.ServedWithout i d
  | .completion i => ∀ o ∈ s.operations[i]?, ∀ block ∈ o.scheduled, ∀ d ∈ s.displayed, d.1 = block.cell →
      ∀ url ∈ s.model d.2, o.operation.image = some url ∨ s.Comes (· ≠ i) d url
  | .load model => s.RecordsKept model
  | .prefetch _ | .advance _ | .finish _ | .drain => True

instance (s : ImageScreen) : ∀ e : ImageEvent, Decidable (KeepsServed s e)
  | .willDisplay cell indexPath => inferInstanceAs (Decidable (∀ l ∈ s.dataLoader indexPath,
      (l.2.operation.image = none → ∀ d ∈ s.displayed, s.ServedWithout l.1 d) ∧
      ∀ url ∈ s.model indexPath, s.brought cell indexPath = .image url ∨
        (l.2.operation.image = none ∧ l.2.url = url ∧ l.2.operation.downloads = true) ∨
        s.Comes (· ≠ l.1) (cell, indexPath) url))
  | .didEndDisplaying cell indexPath => inferInstanceAs (Decidable (∀ i ∈ s.loadingOperations indexPath,
      s.Stoppable i → ∀ d ∈ s.displayed.erase (cell, indexPath), s.ServedWithout i d))
  | .cancelPrefetching indexPaths => inferInstanceAs (Decidable (∀ d ∈ s.displayed,
      ∀ i ∈ s.loadingOperations d.2, (s.cancelPrefetching indexPaths).loadingOperations d.2 = none →
        s.Stoppable i → s.ServedWithout i d))
  | .callback i payload => inferInstanceAs (Decidable (payload.decodedImage = none →
      ∀ d ∈ s.displayed, s.ServedWithout i d))
  | .completion i => inferInstanceAs (Decidable (∀ o ∈ s.operations[i]?, ∀ block ∈ o.scheduled,
      ∀ d ∈ s.displayed, d.1 = block.cell → ∀ url ∈ s.model d.2,
        o.operation.image = some url ∨ s.Comes (· ≠ i) d url))
  | .load model => inferInstanceAs (Decidable (s.RecordsKept model))
  | .prefetch _ | .advance _ | .finish _ | .drain => .isTrue trivial

variable {s s' : ImageScreen} {i : ℕ} {o' : LoadingOperation} {d : Cell × IndexPath}

/-! ## One operation changes -/

theorem delivers_setOperation (hi : s.operations[i]? = some o) (j : ℕ) (d : Cell × IndexPath) (url : URL) :
    (s.setOperation i o').Delivers j d url ↔ if j = i then o'.Delivers d url else s.Delivers j d url := by
  have hlt := (List.getElem?_eq_some_iff.1 hi).1
  unfold ImageScreen.Delivers ImageScreen.setOperation
  split
  · rename_i hj
    subst hj
    simp [List.getElem?_set_self hlt]
  · rename_i hj
    rw [List.getElem?_set_ne (Ne.symm hj)]

/-- An operation that keeps what it delivers, or loses it. -/
theorem delivers_replaced {kept : Prop} (hi : s.operations[i]? = some o)
    (h : ∀ d url, o'.Delivers d url ↔ o.Delivers d url ∧ kept) (j : ℕ) (d : Cell × IndexPath) (url : URL) :
    (s.setOperation i o').Delivers j d url ↔ s.Delivers j d url ∧ (j = i → kept) := by
  rw [delivers_setOperation hi]
  split
  · rename_i hj
    subst hj
    simp [ImageScreen.Delivers, hi, h]
  · rename_i hj
    simp [hj]

/-- **Where one operation may lose its image**, a cell stays served exactly if it does not, or if the
cell is served without it. -/
theorem cell_served_iff {kept : Prop} (hserved : s.Served d) (hmodel : s'.model = s.model)
    (hdrained : s'.drained d.1 = s.drained d.1)
    (hdelivers : ∀ j url, s'.Delivers j d url ↔ s.Delivers j d url ∧ (j = i → kept)) :
    s'.Served d ↔ (¬ kept → s.ServedWithout i d) := by
  have hcomes : ∀ url, s'.Comes (fun _ => True) d url ↔ s.Comes (fun j => j = i → kept) d url := by
    intro url
    refine exists_congr fun j => ?_
    rw [hdelivers j url, true_and, and_comm]
  unfold ImageScreen.Served ImageScreen.ServedBy
  simp only [hmodel, hdrained, hcomes]
  by_cases hkept : kept
  · refine iff_of_true (fun url hurl => ?_) (fun h => absurd hkept h)
    refine (hserved url hurl).imp_right fun ⟨j, _, hj⟩ => ⟨j, fun _ => hkept, hj⟩
  · simp only [hkept, imp_false, not_false_eq_true, true_imp_iff]
    exact Iff.rfl

/-- Nothing changes for a cell. -/
theorem cell_served_congr (hmodel : s'.model = s.model) (hdrained : s'.drained d.1 = s.drained d.1)
    (hdelivers : ∀ j url, s'.Delivers j d url ↔ s.Delivers j d url) : s'.Served d ↔ s.Served d := by
  simp only [ImageScreen.Served, ImageScreen.ServedBy, ImageScreen.Comes, hmodel, hdrained, hdelivers]

/-! ## What always holds -/

/-- Entries go by their keys, and every operation is sound. -/
structure ImageScreen.Sound (s : ImageScreen) : Prop where
  keyed : s.Keyed
  each : ∀ o ∈ s.operations, o.Sound

theorem launch_sound (model : IndexPath → Option URL) : (ImageScreen.launch model).Sound :=
  ⟨launch_keyed model, nofun⟩

theorem new_sound {p : IndexPath} (h : s.loadImage p = some o) (block : Option CompletionBlock) :
    { o with completionBlock := block }.Sound := by
  obtain ⟨url, -, rfl⟩ := Option.map_eq_some_iff.1 h
  exact ⟨⟨rfl, rfl⟩, nofun, nofun, fun _ => rfl, nofun⟩

theorem ImageScreen.Sound.cancelAndRemove (h : s.Sound) {p : IndexPath}
    (hp : s.loadingOperations p = some i) : (s.cancelAndRemove i p).Sound := by
  refine ⟨h.keyed.cancelAndRemove hp, ?_⟩
  obtain ⟨o, hi, -⟩ := h.keyed.entry p i hp
  rw [cancelAndRemove_eq hi]
  exact forall_mem_set_of h.each (cancel_delivers (h.each o (mem_of_slot hi))).1

/-- What an event does to its operation. -/
theorem operate_eq_some {e : OperationEvent URL} (hs : s.operate i o e = some s') :
    ∃ operation, o.operation.step e = some operation ∧ s' = s.setOperation i (o.operated operation) := by
  obtain ⟨operation, hstep, rfl⟩ := Option.map_eq_some_iff.1 hs
  exact ⟨operation, hstep, rfl⟩

/-- **Every reachable operation is sound.** -/
theorem step_each_sound (s : ImageScreen) (e : ImageEvent) (s' : ImageScreen) (h : s.Sound)
    (hs : s.step e = some s') : s'.Sound := by
  refine ⟨step_keyed s e s' h.keyed hs, ?_⟩
  have hcases := imageScreen_step_cases hs
  cases e with
  | willDisplay cell p =>
    obtain ⟨-, rfl⟩ := hcases
    unfold ImageScreen.willDisplay
    split
    · rename_i i o hd
      obtain ⟨-, hi⟩ := dataLoader_eq_some hd
      split
      · exact h.each
      · obtain ⟨hshaped, himage, hstored, hearly, hscheduled⟩ := h.each o (mem_of_slot hi)
        exact forall_mem_set_of h.each ⟨hshaped, himage, hstored, hearly, hscheduled⟩
    · split
      · rename_i o ho
        exact forall_mem_snoc_iff.2 ⟨h.each, new_sound ho _⟩
      · exact h.each
  | didEndDisplaying cell p =>
    rw [hcases]
    unfold ImageScreen.didEndDisplaying
    split
    · exact h.each
    · rename_i i hp
      have hsame : ({ s with displayed := s.displayed.erase (cell, p) } : ImageScreen).Sound :=
        ⟨h.keyed.of_eq rfl rfl, h.each⟩
      exact (hsame.cancelAndRemove hp).each
  | prefetch indexPaths =>
    rw [hcases]
    exact prefetch_induction (P := fun s => ∀ o ∈ s.operations, o.Sound)
      (fun s p o hs _ ho => forall_mem_snoc_iff.2 ⟨hs, new_sound ho _⟩) h.each indexPaths
  | cancelPrefetching indexPaths =>
    rw [hcases]
    exact (cancelPrefetching_induction (fun _ _ _ hs hp => hs.cancelAndRemove hp) h indexPaths).each
  | advance i =>
    obtain ⟨o, hi, hoperate⟩ := hcases
    obtain ⟨operation, hstep, rfl⟩ := operate_eq_some hoperate
    exact forall_mem_set_of h.each (advance_delivers (h.each o (mem_of_slot hi)) hstep).1
  | callback i payload =>
    obtain ⟨o, hi, hoperate⟩ := hcases
    obtain ⟨operation, hstep, rfl⟩ := operate_eq_some hoperate
    exact forall_mem_set_of h.each
      (callback_delivers (h.each o (mem_of_slot hi)) (own_image o.url payload) hstep).1
  | finish i =>
    obtain ⟨o, hi, hoperate⟩ := hcases
    obtain ⟨operation, hstep, rfl⟩ := operate_eq_some hoperate
    exact forall_mem_set_of h.each (finish_delivers (h.each o (mem_of_slot hi)) hstep).1
  | completion i =>
    obtain ⟨o, block, hi, hb, rfl⟩ := hcases
    obtain ⟨hshaped, himage, hstored, hearly, -⟩ := h.each o (mem_of_slot hi)
    exact forall_mem_set_of h.each ⟨hshaped, himage, hstored, hearly, nofun⟩
  | drain =>
    obtain ⟨cell, image, queue, -, rfl⟩ := hcases
    exact h.each
  | load model =>
    rw [hcases]
    exact h.each

/-! ## Steps -/

/-- An event of one operation, which loses its image or does not. -/
theorem operate_served_iff {kept : Prop} {operation : DataLoadOperation URL} (hserved : s.AllServed)
    (hi : s.operations[i]? = some o)
    (h : ∀ d url, (o.operated operation).Delivers d url ↔ o.Delivers d url ∧ kept) :
    (s.setOperation i (o.operated operation)).AllServed ↔
      (¬ kept → ∀ d ∈ s.displayed, s.ServedWithout i d) := by
  have hone : ∀ d ∈ s.displayed, (s.setOperation i (o.operated operation)).Served d ↔
      (¬ kept → s.ServedWithout i d) := fun d hd =>
    cell_served_iff (hserved d hd) rfl rfl fun j url => delivers_replaced hi h j d url
  exact (forall₂_congr hone).trans ⟨fun h hk d hd => h d hd hk, fun h d hd hk => h hk d hd⟩

/-- Cancelling the operation of a path, and removing its entry. -/
theorem delivers_cancelAndRemove (h : s.Sound) {p : IndexPath} (hp : s.loadingOperations p = some i)
    (j : ℕ) (d : Cell × IndexPath) (url : URL) :
    (s.cancelAndRemove i p).Delivers j d url ↔ s.Delivers j d url ∧ (j = i → ¬ s.Stoppable i) := by
  obtain ⟨o, hi, -⟩ := h.keyed.entry p i hp
  have hstop : ¬ s.Stoppable i ↔ o.operation.stoppable = false := by simp [ImageScreen.Stoppable, hi]
  rw [cancelAndRemove_eq hi, hstop]
  exact delivers_replaced hi (cancel_delivers (h.each o (mem_of_slot hi))).2 j d url

theorem didEndDisplaying_served_iff (h : s.Sound) (hserved : s.AllServed) (p : IndexPath) :
    (s.didEndDisplaying p).AllServed ↔
      ∀ i ∈ s.loadingOperations p, s.Stoppable i → ∀ d ∈ s.displayed, s.ServedWithout i d := by
  unfold ImageScreen.didEndDisplaying
  cases hp : s.loadingOperations p with
  | none => exact iff_of_true hserved nofun
  | some i =>
    have hone : ∀ d ∈ s.displayed, (s.cancelAndRemove i p).Served d ↔
        (s.Stoppable i → s.ServedWithout i d) := by
      intro d hd
      have hiff := @cell_served_iff s (s.cancelAndRemove i p) i d _ (hserved d hd) rfl rfl
        fun j url => delivers_cancelAndRemove h hp j d url
      rwa [not_not] at hiff
    refine (forall₂_congr hone).trans ?_
    simp only [Option.mem_def, Option.some.injEq, forall_eq']
    exact ⟨fun h hs d hd => h d hd hs, fun h d hd hs => h hs d hd⟩

theorem stoppable_cancelAndRemove (s : ImageScreen) (i : ℕ) (p : IndexPath) (j : ℕ) :
    (s.cancelAndRemove i p).Stoppable j ↔ s.Stoppable j := by
  simp only [ImageScreen.Stoppable, ImageScreen.cancelAndRemove, ImageScreen.removeValue,
    List.getElem?_modify]
  cases s.operations[j]? with
  | none => simp
  | some o =>
    by_cases hij : i = j
    · simp [hij, DataLoadOperation.stoppable]
    · simp [hij]

/-- What delivers to a cell is an operation of its path. -/
theorem delivers_path (h : s.Sound) {j : ℕ} {url : URL} (hdelivers : s.Delivers j d url) :
    ∀ o ∈ s.operations[j]?, o.indexPath = d.2 := by
  obtain ⟨o, hj, -, ⟨-, hblock⟩ | ⟨-, hblock⟩⟩ := hdelivers
  all_goals
    intro o' ho'
    obtain rfl := Option.some.inj (ho'.symm.trans hj)
    have hkeyed := h.keyed.block o' (mem_of_slot hj)
  · exact (hkeyed.1 _ hblock).symm
  · exact (hkeyed.2 _ hblock).symm

/-- **What a batch of cancellations loses**: of the operations that deliver to a cell, only the one that
its path has as entry, if it is reached and can be stopped. -/
theorem delivers_cancelPrefetching (h : s.Sound) (indexPaths : List IndexPath) (j : ℕ)
    (d : Cell × IndexPath) (url : URL) :
    (s.cancelPrefetching indexPaths).Delivers j d url ↔ s.Delivers j d url ∧
      (s.loadingOperations d.2 = some j → (s.cancelPrefetching indexPaths).loadingOperations d.2 = none →
        ¬ s.Stoppable j) := by
  induction indexPaths generalizing s with
  | nil =>
    refine (and_iff_left fun hentry hnone => ?_).symm
    rw [show s.loadingOperations d.2 = none from hnone] at hentry
    cases hentry
  | cons p indexPaths ih =>
    unfold ImageScreen.cancelPrefetching
    cases hp : s.loadingOperations p with
    | none =>
      refine (and_iff_left fun hentry hnone => ?_).symm
      rw [show s.loadingOperations d.2 = none from hnone] at hentry
      cases hentry
    | some i =>
      dsimp only
      rw [ih (h.cancelAndRemove hp), delivers_cancelAndRemove h hp, stoppable_cancelAndRemove, and_assoc]
      refine and_congr_right fun hdelivers => ?_
      by_cases hpd : p = d.2
      · -- the path of the cell: its entry is gone from here on
        subst hpd
        have hgone : (s.cancelAndRemove i d.2).loadingOperations d.2 = none := Function.update_self ..
        have hstays : ((s.cancelAndRemove i d.2).cancelPrefetching indexPaths).loadingOperations d.2 = none :=
          ((cancelPrefetching_frame _ indexPaths).entry d.2).elim id fun hsame => hsame.trans hgone
        rw [hgone, hstays, hp]
        constructor
        · rintro ⟨hkept, -⟩ hij -
          obtain rfl := Option.some.inj hij
          exact hkept rfl
        · exact fun hkept => ⟨fun hji => hji ▸ hkept (hji ▸ rfl) rfl, by rintro ⟨⟩⟩
      · have hother : (s.cancelAndRemove i p).loadingOperations d.2 = s.loadingOperations d.2 :=
          Function.update_of_ne (Ne.symm hpd) ..
        have hji : j ≠ i := by
          rintro rfl
          obtain ⟨o, hi, hpath⟩ := h.keyed.entry p j hp
          exact hpd (hpath.symm.trans (delivers_path h hdelivers o hi))
        rw [hother]
        exact and_iff_right fun heq => absurd heq hji

theorem cancelPrefetching_served_iff (h : s.Sound) (hserved : s.AllServed) (indexPaths : List IndexPath) :
    (s.cancelPrefetching indexPaths).AllServed ↔ ∀ d ∈ s.displayed, ∀ i ∈ s.loadingOperations d.2,
      (s.cancelPrefetching indexPaths).loadingOperations d.2 = none → s.Stoppable i →
        s.ServedWithout i d := by
  have hsame := cancelPrefetching_same s indexPaths
  unfold ImageScreen.AllServed
  rw [hsame.displayed]
  refine forall₂_congr fun d hd => ?_
  have hdrained : (s.cancelPrefetching indexPaths).drained d.1 = s.drained d.1 := by rw [hsame.drained]
  cases hentry : s.loadingOperations d.2 with
  | none =>
    refine iff_of_true ?_ nofun
    refine (cell_served_congr hsame.model hdrained fun j url => ?_).2 (hserved d hd)
    rw [delivers_cancelPrefetching h, hentry]
    exact and_iff_left nofun
  | some i =>
    have hone := @cell_served_iff s (s.cancelPrefetching indexPaths) i d
      ((s.cancelPrefetching indexPaths).loadingOperations d.2 = none → ¬ s.Stoppable i) (hserved d hd)
      hsame.model hdrained fun j url => by
        rw [delivers_cancelPrefetching h, hentry]
        refine and_congr_right fun _ => ?_
        exact ⟨fun hkept hji => hji ▸ hkept (hji ▸ rfl),
          fun hkept hij => by obtain rfl := Option.some.inj hij; exact hkept rfl⟩
    rw [hone]
    simp only [Option.mem_def, Option.some.injEq, forall_eq', not_forall, not_not]
    exact ⟨fun h hnone hs => h ⟨hnone, hs⟩, fun h ⟨hnone, hs⟩ => h hnone hs⟩

theorem delivers_addOperation (p : IndexPath) (o : LoadingOperation) (j : ℕ) (d : Cell × IndexPath)
    (url : URL) : (s.addOperation p o).Delivers j d url ↔
      s.Delivers j d url ∨ j = s.operations.length ∧ o.Delivers d url := by
  simp only [ImageScreen.Delivers, ImageScreen.addOperation, List.getElem?_append]
  by_cases hj : j < s.operations.length
  · simp [hj, Nat.ne_of_lt hj]
  · have hnone : s.operations[j]? = none := by simpa using hj
    rw [if_neg hj, hnone]
    by_cases heq : j = s.operations.length
    · simp [heq]
    · simp [heq, Nat.sub_eq_zero_iff_le, show ¬ j ≤ s.operations.length by omega]

/-- Adding an operation takes nothing from a cell. -/
theorem served_addOperation (h : s.Served d) (p : IndexPath) (o : LoadingOperation) :
    (s.addOperation p o).Served d := by
  intro url hurl
  refine (h url hurl).imp id fun ⟨j, hj, hdelivers⟩ => ⟨j, hj, ?_⟩
  exact (delivers_addOperation p o j d url).2 (.inl hdelivers)

theorem prefetch_served (hserved : s.AllServed) (indexPaths : List IndexPath) :
    (s.prefetch indexPaths).AllServed :=
  prefetch_induction (P := ImageScreen.AllServed)
    (fun _ p o hs _ _ d hd => served_addOperation (hs d hd) p o) hserved indexPaths

section WillDisplay

variable {cell : Cell} {p : IndexPath}

/-- `willDisplay` finds the image in the table. -/
theorem willDisplay_image (h : s.Sound) (hserved : s.AllServed) (hnew : ∀ d ∈ s.displayed, d.1 ≠ cell)
    (hi : s.operations[i]? = some o) {image : URL} (himage : o.operation.image = some image)
    (hs : SamePictures ({ s with displayed := (cell, p) :: s.displayed }.setupImage cell (some image)) s')
    (hops : s'.operations = s.operations) :
    s'.AllServed ↔ ∀ url ∈ s.model p, image = url ∨ s.Comes (· ≠ i) (cell, p) url := by
  have hdelivers : ∀ j d url, s'.Delivers j d url ↔ s.Delivers j d url := by
    intro j d url
    unfold ImageScreen.Delivers
    rw [hops]
  have hdrained : s'.drained = Function.update s.drained cell (.image image) :=
    hs.drained.trans (drained_setupImage _ cell (some image))
  have hmodel : s'.model = s.model := hs.model
  have hothers : ∀ d ∈ s.displayed, s'.Served d := by
    intro d hd
    refine (cell_served_congr hmodel ?_ (hdelivers · d)).2 (hserved d hd)
    rw [hdrained, Function.update_of_ne (hnew d hd)]
  unfold ImageScreen.AllServed
  rw [hs.displayed, show (({ s with displayed := (cell, p) :: s.displayed } : ImageScreen).setupImage cell
    (some image)).displayed = (cell, p) :: s.displayed from rfl, List.forall_mem_cons, and_iff_left hothers]
  unfold ImageScreen.Served ImageScreen.ServedBy
  rw [hmodel, hdrained]
  refine forall₂_congr fun url _ => ?_
  simp only [Function.update_self, Picture.image.injEq, ImageScreen.Comes, hdelivers, true_and]
  constructor
  · rintro (hown | ⟨j, hj⟩)
    · exact .inl hown
    · by_cases hji : j = i
      · -- the operation itself delivers the image that it has
        subst hji
        obtain ⟨x, hx, rfl, -⟩ := hj
        obtain rfl := Option.some.inj (hi.symm.trans hx)
        exact .inl ((h.each o (mem_of_slot hi)).image image himage)
      · exact .inr ⟨j, hji, hj⟩
  · rintro (hown | ⟨j, -, hj⟩)
    · exact .inl hown
    · exact .inr ⟨j, hj⟩

/-- `willDisplay` gives the table's operation a new block. -/
theorem willDisplay_block (hserved : s.AllServed) (hnew : ∀ d ∈ s.displayed, d.1 ≠ cell)
    (hi : s.operations[i]? = some o) (hnone : o.operation.image = none) :
    ({ s with displayed := (cell, p) :: s.displayed }.setOperation i
        { o with completionBlock := some ⟨cell, p⟩ }).AllServed ↔
      (∀ d ∈ s.displayed, s.ServedWithout i d) ∧ ∀ url ∈ s.model p, s.drained cell = .image url ∨
        (o.url = url ∧ o.operation.downloads = true) ∨ s.Comes (· ≠ i) (cell, p) url := by
  have hblock : ∀ d url, { o with completionBlock := some ⟨cell, p⟩ }.Delivers d url ↔
      (o.url = url ∧ o.operation.downloads = true) ∧ d = (cell, p) := by
    rintro ⟨c, q⟩ url
    simp only [LoadingOperation.Delivers, hnone, Option.isSome_none, Bool.false_eq_true, false_and,
      or_false, Option.some.injEq, CompletionBlock.mk.injEq, Prod.mk.injEq]
    constructor
    · rintro ⟨hu, hd, rfl, rfl⟩
      exact ⟨⟨hu, hd⟩, rfl, rfl⟩
    · rintro ⟨⟨hu, hd⟩, rfl, rfl⟩
      exact ⟨hu, hd, rfl, rfl⟩
  set s' := { s with displayed := (cell, p) :: s.displayed }.setOperation i
    { o with completionBlock := some ⟨cell, p⟩ }
  have hdelivers : ∀ j d url, s'.Delivers j d url ↔
      if j = i then (o.url = url ∧ o.operation.downloads = true) ∧ d = (cell, p) else s.Delivers j d url := by
    intro j d url
    rw [← hblock]
    exact delivers_setOperation (s := { s with displayed := (cell, p) :: s.displayed }) hi j d url
  have hothers : ∀ d ∈ s.displayed, (s'.Served d ↔ s.ServedWithout i d) := by
    intro d hd
    have hone := @cell_served_iff s s' i d False (hserved d hd) rfl rfl fun j url => by
      rw [hdelivers]
      split
      · rename_i hji
        have hd : d ≠ (cell, p) := fun heq => hnew d hd (by rw [heq])
        simp [hji, hd]
      · rename_i hji
        simp [hji]
    simpa using hone
  have hown : s'.Served (cell, p) ↔ ∀ url ∈ s.model p, s.drained cell = .image url ∨
      (o.url = url ∧ o.operation.downloads = true) ∨ s.Comes (· ≠ i) (cell, p) url := by
    refine forall₂_congr fun url _ => or_congr_right ?_
    simp only [ImageScreen.Comes, hdelivers, true_and]
    constructor
    · rintro ⟨j, hj⟩
      split at hj
      · exact .inl hj.1
      · exact .inr ⟨j, ‹_›, hj⟩
    · rintro (hown | ⟨j, hji, hj⟩)
      · exact ⟨i, by rw [if_pos rfl]; exact ⟨hown, trivial⟩⟩
      · exact ⟨j, by rw [if_neg hji]; exact hj⟩
  show (∀ d ∈ (cell, p) :: s.displayed, s'.Served d) ↔ _
  rw [List.forall_mem_cons, hown, and_comm]
  exact and_congr_left fun _ => forall₂_congr hothers

/-- `willDisplay` starts a load of its own. -/
theorem willDisplay_load (hserved : s.AllServed) (ho : s.loadImage p = some o) :
    ({ s with displayed := (cell, p) :: s.displayed }.addOperation p
      { o with completionBlock := some ⟨cell, p⟩ }).AllServed := by
  obtain ⟨url, hurl, rfl⟩ := Option.map_eq_some_iff.1 ho
  refine List.forall_mem_cons.2 ⟨fun url' hurl' => .inr ⟨s.operations.length, trivial, ?_⟩, fun d hd => ?_⟩
  · obtain rfl := Option.some.inj (hurl.symm.trans hurl')
    refine (delivers_addOperation p _ _ _ _).2 (.inr ⟨rfl, rfl, .inl ⟨rfl, rfl⟩⟩)
  · exact served_addOperation (s := { s with displayed := (cell, p) :: s.displayed }) (hserved d hd) p _

/-- **A cell comes on screen.** -/
theorem willDisplay_served_iff (h : s.Sound) (hserved : s.AllServed) (hnew : ∀ d ∈ s.displayed, d.1 ≠ cell) :
    ({ s with displayed := (cell, p) :: s.displayed }.willDisplay cell p).AllServed ↔
      KeepsServed s (.willDisplay cell p) := by
  unfold KeepsServed ImageScreen.willDisplay ImageScreen.brought
  dsimp only
  rw [show ({ s with displayed := (cell, p) :: s.displayed } : ImageScreen).dataLoader p =
    s.dataLoader p from rfl]
  cases hl : s.dataLoader p with
  | none =>
    refine iff_of_true ?_ (by simp)
    dsimp only
    cases ho : s.loadImage p with
    | some o =>
      rw [show ({ s with displayed := (cell, p) :: s.displayed } : ImageScreen).loadImage p = some o from ho]
      exact willDisplay_load hserved ho
    | none =>
      rw [show ({ s with displayed := (cell, p) :: s.displayed } : ImageScreen).loadImage p = none from ho]
      refine List.forall_mem_cons.2 ⟨fun url hurl => ?_, hserved⟩
      rw [ImageScreen.loadImage, show s.model p = some url from hurl] at ho
      cases ho
  | some l =>
    obtain ⟨i, o⟩ := l
    obtain ⟨-, hi⟩ := dataLoader_eq_some hl
    simp only [Option.mem_def, Option.some.injEq, forall_eq']
    cases himage : o.operation.image with
    | some image =>
      dsimp only
      refine (willDisplay_image (p := p) h hserved hnew hi himage ?_ ?_).trans ?_
      · exact ⟨rfl, rfl, rfl, rfl⟩
      · rfl
      · simp
    | none =>
      refine (willDisplay_block hserved hnew hi himage).trans ?_
      simp

end WillDisplay

theorem picture_of_eq_image {image : Option URL} {url : URL} :
    Picture.of image = .image url ↔ image = some url := by
  cases image <;> simp [Picture.of]

/-- **A completion block runs.** -/
theorem completion_served_iff (h : s.Sound) (hserved : s.AllServed) {block : CompletionBlock}
    (hi : s.operations[i]? = some o) (hb : o.scheduled = some block)
    (hs : SamePictures (s.setupImage block.cell o.operation.image) s')
    (hops : s'.operations = (s.setOperation i { o with scheduled := none }).operations) :
    s'.AllServed ↔ ∀ d ∈ s.displayed, d.1 = block.cell →
      ∀ url ∈ s.model d.2, o.operation.image = some url ∨ s.Comes (· ≠ i) d url := by
  have hsound := h.each o (mem_of_slot hi)
  have hspent : ∀ d url, { o with scheduled := none }.Delivers d url ↔ o.Delivers d url ∧ False := by
    intro d url
    have hidle : o.operation.downloads = false := hsound.scheduled (by simp [hb])
    simp [LoadingOperation.Delivers, hidle]
  have hdelivers : ∀ j d url, s'.Delivers j d url ↔ s.Delivers j d url ∧ (j = i → False) := by
    intro j d url
    rw [← delivers_replaced hi hspent, ImageScreen.Delivers, hops]
    exact Iff.rfl
  have hdrained : s'.drained = Function.update s.drained block.cell (.of o.operation.image) :=
    hs.drained.trans (drained_setupImage s block.cell o.operation.image)
  have hmodel : s'.model = s.model := hs.model
  have hdisplayed : s'.displayed = s.displayed := hs.displayed
  unfold ImageScreen.AllServed
  rw [hdisplayed]
  refine forall₂_congr fun d hd => ?_
  by_cases hc : d.1 = block.cell
  · refine Iff.trans ?_ (imp_iff_right hc).symm
    unfold ImageScreen.Served ImageScreen.ServedBy
    rw [hmodel, hdrained, hc, Function.update_self]
    refine forall₂_congr fun url _ => or_congr picture_of_eq_image (exists_congr fun j => ?_)
    rw [hdelivers, true_and, and_comm]
  · -- the operation delivers to the cell of its block alone
    refine iff_of_true ?_ fun h => absurd h hc
    refine (@cell_served_iff s s' i d False (hserved d hd) hmodel ?_ fun j url => hdelivers j d url).2
      fun _ => ?_
    · rw [hdrained, Function.update_of_ne hc]
    · intro url hurl
      refine (hserved d hd url hurl).imp id ?_
      rintro ⟨j, -, hj⟩
      refine ⟨j, ?_, hj⟩
      rintro rfl
      obtain ⟨x, hx, hj⟩ := hj
      obtain rfl := Option.some.inj (hi.symm.trans hx)
      exact hc (by rw [((delivers_scheduled hsound hb d url).1 hj).2])

/-- **One step** leaves every cell on screen served exactly when it meets the condition. -/
theorem allServed_iff (s : ImageScreen) (e : ImageEvent) (s' : ImageScreen) (h : s.Sound)
    (hserved : s.AllServed) (hkept : KeepsRecords s e) (hs : s.step e = some s') :
    s'.AllServed ↔ KeepsServed s e := by
  have hcases := imageScreen_step_cases hs
  cases e with
  | willDisplay cell p =>
    obtain ⟨hnew, rfl⟩ := hcases
    exact willDisplay_served_iff h hserved hnew
  | didEndDisplaying cell p =>
    rw [hcases]
    have hsame : ({ s with displayed := s.displayed.erase (cell, p) } : ImageScreen).Sound :=
      ⟨h.keyed.of_eq rfl rfl, h.each⟩
    exact didEndDisplaying_served_iff hsame (fun d hd => hserved d (List.mem_of_mem_erase hd)) p
  | prefetch indexPaths =>
    rw [hcases]
    exact iff_of_true (prefetch_served hserved indexPaths) trivial
  | cancelPrefetching indexPaths =>
    rw [hcases]
    exact cancelPrefetching_served_iff h hserved indexPaths
  | advance i =>
    obtain ⟨o, hi, hoperate⟩ := hcases
    obtain ⟨operation, hstep, rfl⟩ := operate_eq_some hoperate
    have hsame := (advance_delivers (h.each o (mem_of_slot hi)) hstep).2
    have hiff := operate_served_iff hserved hi fun d url => (hsame d url).trans (and_true _).symm.to_iff
    exact iff_of_true (hiff.2 fun hlost => absurd trivial hlost) trivial
  | callback i payload =>
    obtain ⟨o, hi, hoperate⟩ := hcases
    obtain ⟨operation, hstep, rfl⟩ := operate_eq_some hoperate
    have hsame := (callback_delivers (h.each o (mem_of_slot hi)) (own_image o.url payload) hstep).2
    refine (operate_served_iff hserved hi hsame).trans ?_
    rw [not_not, decodedImage_of, Option.map_eq_none_iff]
    exact Iff.rfl
  | finish i =>
    obtain ⟨o, hi, hoperate⟩ := hcases
    obtain ⟨operation, hstep, rfl⟩ := operate_eq_some hoperate
    have hsame := (finish_delivers (h.each o (mem_of_slot hi)) hstep).2
    have hiff := operate_served_iff hserved hi fun d url => (hsame d url).trans (and_true _).symm.to_iff
    exact iff_of_true (hiff.2 fun hlost => absurd trivial hlost) trivial
  | completion i =>
    obtain ⟨o, block, hi, hb, rfl⟩ := hcases
    refine (completion_served_iff h hserved hi hb ?_ ?_).trans ?_
    · exact ⟨rfl, rfl, rfl, rfl⟩
    · rfl
    · simp [KeepsServed, hi, hb]
  | drain =>
    obtain ⟨cell, image, queue, hq, rfl⟩ := hcases
    have hdrained : ({ s with mainQueue := queue, picture := Function.update s.picture cell (.of image) } :
        ImageScreen).drained = s.drained := by simp [ImageScreen.drained, hq]
    refine iff_of_true (fun d hd url hurl => ?_) trivial
    rw [hdrained]
    exact hserved d hd url hurl
  | load model =>
    have hrecords := hkept model rfl
    rw [hcases]
    -- what a cell shows and gets stays, and so does what it has to show
    exact iff_of_true (fun d hd url hurl => hserved d hd url (hrecords d hd url hurl)) hrecords

/-- The condition has that on the loads among it. -/
theorem keepsRecords_of_keepsServed (s : ImageScreen) (e : ImageEvent) (h : KeepsServed s e) :
    KeepsRecords s e := by
  rintro model rfl
  exact h

end ArtExhibition
