import ArtExhibition.Proof.LoadTable

/-!
# Which picture a cell shows

`drained` is the picture of each cell once the queued blocks of `setupImage` have run. A
cell on screen is right (`Picture.Right`) with the placeholder or with the image of its
record; `ShowsOwn` says that all cells are.

* A cell takes into `willDisplay` what it had, or the image of the table's operation
  (`willDisplay_drained`): nothing resets a reused cell.
* A completion block gives its image, or none, to its cell wherever this is by then
  (`completion_showsOwn_iff`).
* `shows_own_iff`: `ShowsOwn` holds all along a run exactly when no step brings a wrong
  picture to a cell on screen (`BringsRight`). `reused_cell` is the simplest one that does.
-/

namespace ArtExhibition

open Machine

/-- The pictures once the blocks queued on the main queue have run. -/
def ImageScreen.drained (s : ImageScreen) : Cell → Picture :=
  s.mainQueue.foldl (fun pictures block => Function.update pictures block.1 (.of block.2)) s.picture

/-- The placeholder, or the image downloaded from the URL of the model's record. -/
def Picture.Right (model : IndexPath → Option URL) (indexPath : IndexPath) : Picture → Prop
  | .placeholder => True
  | .image url => model indexPath = some url
  | .blank => False

instance (model : IndexPath → Option URL) (indexPath : IndexPath) :
    ∀ picture : Picture, Decidable (picture.Right model indexPath)
  | .placeholder => .isTrue trivial
  | .image url => inferInstanceAs (Decidable (model indexPath = some url))
  | .blank => .isFalse id

/-- **Every cell on screen shows its own record**, once the queued image blocks have run. -/
def ImageScreen.ShowsOwn (s : ImageScreen) : Prop :=
  ∀ d ∈ s.displayed, (s.drained d.1).Right s.model d.2

instance (s : ImageScreen) : Decidable s.ShowsOwn :=
  inferInstanceAs (Decidable (∀ d ∈ s.displayed, (s.drained d.1).Right s.model d.2))

/-- What a cell shows once it is displayed at an index path: the image of the table's
operation, if it has one, or what the cell already had. -/
def ImageScreen.brought (s : ImageScreen) (cell : Cell) (indexPath : IndexPath) : Picture :=
  match s.dataLoader indexPath with
  | some (_, o) =>
    match o.operation.image with
    | some url => .image url
    | none => s.drained cell
  | none => s.drained cell

/-- The condition on a step: a cell comes on screen with a picture that is right there; a
completion block whose cell is on screen has the image of the record shown there; a load
leaves the URL of every path at which a cell shows an image. -/
def BringsRight (s : ImageScreen) : ImageEvent → Prop
  | .willDisplay cell indexPath => (s.brought cell indexPath).Right s.model indexPath
  | .completion i => ∀ o ∈ s.operations[i]?, ∀ block ∈ o.scheduled, ∀ d ∈ s.displayed,
      d.1 = block.cell → (Picture.of o.operation.image).Right s.model d.2
  | .load model => ∀ d ∈ s.displayed, s.drained d.1 ≠ .placeholder → model d.2 = s.model d.2
  | _ => True

instance (s : ImageScreen) : ∀ e : ImageEvent, Decidable (BringsRight s e)
  | .willDisplay cell indexPath =>
    inferInstanceAs (Decidable ((s.brought cell indexPath).Right s.model indexPath))
  | .completion i => inferInstanceAs (Decidable (∀ o ∈ s.operations[i]?, ∀ block ∈ o.scheduled,
      ∀ d ∈ s.displayed, d.1 = block.cell → (Picture.of o.operation.image).Right s.model d.2))
  | .load model => inferInstanceAs (Decidable (∀ d ∈ s.displayed,
      s.drained d.1 ≠ .placeholder → model d.2 = s.model d.2))
  | .didEndDisplaying .. | .prefetch _ | .cancelPrefetching _ | .advance _ | .callback .. | .finish _
  | .drain => .isTrue trivial

variable {s s' : ImageScreen} {cell : Cell} {indexPath : IndexPath}

/-! ## What the handlers do to the pictures -/

/-- The step leaves the model, the pictures and the main queue. -/
structure SamePictures (s s' : ImageScreen) : Prop where
  model : s'.model = s.model
  picture : s'.picture = s.picture
  mainQueue : s'.mainQueue = s.mainQueue
  displayed : s'.displayed = s.displayed

theorem SamePictures.refl (s : ImageScreen) : SamePictures s s := ⟨rfl, rfl, rfl, rfl⟩

theorem SamePictures.trans {s₁ s₂ s₃ : ImageScreen} (h : SamePictures s₁ s₂) (h' : SamePictures s₂ s₃) :
    SamePictures s₁ s₃ :=
  ⟨h'.model.trans h.model, h'.picture.trans h.picture, h'.mainQueue.trans h.mainQueue,
    h'.displayed.trans h.displayed⟩

theorem SamePictures.drained (h : SamePictures s s') : s'.drained = s.drained := by
  unfold ImageScreen.drained
  rw [h.mainQueue, h.picture]

theorem SamePictures.showsOwn (h : SamePictures s s') (hs : s.ShowsOwn) : s'.ShowsOwn := by
  intro d hd
  rw [h.displayed] at hd
  rw [h.drained, h.model]
  exact hs d hd

theorem prefetch_same (s : ImageScreen) (indexPaths : List IndexPath) :
    SamePictures s (s.prefetch indexPaths) := by
  induction indexPaths generalizing s with
  | nil => exact .refl s
  | cons indexPath indexPaths ih =>
    unfold ImageScreen.prefetch
    split
    · exact .refl s
    · exact .refl s
    · rename_i o _ _
      have hadd : SamePictures s (s.addOperation indexPath o) := ⟨rfl, rfl, rfl, rfl⟩
      exact hadd.trans (ih _)

theorem cancelAndRemove_same (s : ImageScreen) (i : ℕ) (indexPath : IndexPath) :
    SamePictures s (s.cancelAndRemove i indexPath) := ⟨rfl, rfl, rfl, rfl⟩

theorem cancelPrefetching_same (s : ImageScreen) (indexPaths : List IndexPath) :
    SamePictures s (s.cancelPrefetching indexPaths) := by
  induction indexPaths generalizing s with
  | nil => exact .refl s
  | cons indexPath indexPaths ih =>
    unfold ImageScreen.cancelPrefetching
    split
    · exact .refl s
    · rename_i i _
      exact (cancelAndRemove_same s i indexPath).trans (ih _)

theorem didEndDisplaying_same (s : ImageScreen) (indexPath : IndexPath) :
    SamePictures s (s.didEndDisplaying indexPath) := by
  unfold ImageScreen.didEndDisplaying
  split
  · exact .refl s
  · rename_i i _
    exact cancelAndRemove_same s i indexPath

theorem operate_same {i : ℕ} {o : LoadingOperation} {e : OperationEvent URL}
    (hs : s.operate i o e = some s') : SamePictures s s' := by
  obtain ⟨operation, -, rfl⟩ := Option.map_eq_some_iff.1 hs
  exact ⟨rfl, rfl, rfl, rfl⟩

/-- A queued block of `setupImage` decides the picture of its cell. -/
theorem drained_setupImage (s : ImageScreen) (cell : Cell) (image : Option URL) :
    (s.setupImage cell image).drained = Function.update s.drained cell (.of image) := by
  unfold ImageScreen.drained ImageScreen.setupImage
  rw [List.foldl_append]
  rfl

/-- **`willDisplay` gives the cell what it brings**, and no other cell anything. -/
theorem willDisplay_drained (s : ImageScreen) (cell : Cell) (indexPath : IndexPath) :
    (s.willDisplay cell indexPath).drained =
      Function.update s.drained cell (s.brought cell indexPath) := by
  unfold ImageScreen.willDisplay ImageScreen.brought
  cases s.dataLoader indexPath with
  | none =>
    dsimp only
    rw [Function.update_eq_self]
    split <;> rfl
  | some d =>
    obtain ⟨i, o⟩ := d
    dsimp only
    cases o.operation.image with
    | none => rw [Function.update_eq_self]; rfl
    | some url => exact drained_setupImage s cell (some url)

theorem willDisplay_model (s : ImageScreen) (cell : Cell) (indexPath : IndexPath) :
    (s.willDisplay cell indexPath).model = s.model ∧
      (s.willDisplay cell indexPath).displayed = s.displayed := by
  unfold ImageScreen.willDisplay
  repeat' split
  all_goals exact ⟨rfl, rfl⟩

/-! ## Steps -/

/-- A cell that comes on screen is right exactly when what it brings is. -/
theorem willDisplay_showsOwn_iff (h : s.ShowsOwn) (hnew : ∀ d ∈ s.displayed, d.1 ≠ cell) :
    ({ s with displayed := (cell, indexPath) :: s.displayed }.willDisplay cell indexPath).ShowsOwn ↔
      (s.brought cell indexPath).Right s.model indexPath := by
  have hdrained := willDisplay_drained { s with displayed := (cell, indexPath) :: s.displayed } cell
    indexPath
  obtain ⟨hmodel, hdisplayed⟩ :=
    willDisplay_model { s with displayed := (cell, indexPath) :: s.displayed } cell indexPath
  have hcell : (Function.update s.drained cell (s.brought cell indexPath)) cell = s.brought cell indexPath :=
    Function.update_self ..
  unfold ImageScreen.ShowsOwn
  rw [hdrained, hmodel, hdisplayed, List.forall_mem_cons]
  constructor
  · rintro ⟨hright, -⟩
    rw [← hcell]
    exact hright
  · intro hright
    refine ⟨?_, fun d hd => ?_⟩
    · rw [← hcell] at hright
      exact hright
    · -- the other cells on screen keep their pictures
      have hother : (Function.update s.drained cell (s.brought cell indexPath)) d.1 = s.drained d.1 :=
        Function.update_of_ne (hnew d hd) ..
      have hd' := h d hd
      rw [← hother] at hd'
      exact hd'

/-- A completion block is right exactly when its image is that of every path its cell is at. -/
theorem completion_showsOwn_iff (h : s.ShowsOwn) (cell : Cell) (image : Option URL)
    (hs : SamePictures (s.setupImage cell image) s') :
    s'.ShowsOwn ↔ ∀ d ∈ s.displayed, d.1 = cell → (Picture.of image).Right s.model d.2 := by
  have hdrained : s'.drained = Function.update s.drained cell (.of image) :=
    hs.drained.trans (drained_setupImage s cell image)
  have hmodel : s'.model = s.model := hs.model
  have hdisplayed : s'.displayed = s.displayed := hs.displayed
  unfold ImageScreen.ShowsOwn
  rw [hdrained, hmodel, hdisplayed]
  constructor
  · intro hright d hd hc
    have hd' := hright d hd
    rw [hc, Function.update_self] at hd'
    exact hd'
  · intro hright d hd
    by_cases hc : d.1 = cell
    · rw [hc, Function.update_self]
      exact hright d hd hc
    · rw [Function.update_of_ne hc]
      exact h d hd

/-- A load is right exactly when it leaves the URLs of the images on screen. -/
theorem load_showsOwn_iff (h : s.ShowsOwn) (model : IndexPath → Option URL) :
    { s with model := model }.ShowsOwn ↔
      ∀ d ∈ s.displayed, s.drained d.1 ≠ .placeholder → model d.2 = s.model d.2 := by
  show (∀ d ∈ s.displayed, (s.drained d.1).Right model d.2) ↔ _
  refine forall₂_congr fun d hd => ?_
  have hd' := h d hd
  revert hd'
  cases s.drained d.1 with
  | placeholder => simp [Picture.Right]
  | blank => simp [Picture.Right]
  | image url =>
    intro hright
    have hright : s.model d.2 = some url := hright
    simp [Picture.Right, hright]

/-- Running a queued block leaves the pictures that the queue leads to. -/
theorem drain_showsOwn (h : s.ShowsOwn) {cell : Cell} {image : Option URL}
    {queue : List (Cell × Option URL)} (hq : s.mainQueue = (cell, image) :: queue) :
    ({ s with mainQueue := queue, picture := Function.update s.picture cell (.of image) } :
      ImageScreen).ShowsOwn := by
  intro d hd
  have hd' := h d hd
  unfold ImageScreen.drained at hd' ⊢
  rw [hq] at hd'
  exact hd'

/-- **One step** shows every cell its own record exactly when it brings no wrong picture. -/
theorem showsOwn_iff (s : ImageScreen) (e : ImageEvent) (s' : ImageScreen) (h : s.ShowsOwn)
    (hs : s.step e = some s') : (∀ x ∈ s.step e, x.ShowsOwn) ↔ BringsRight s e := by
  have hone : (∀ x ∈ s.step e, x.ShowsOwn) ↔ s'.ShowsOwn := by
    rw [hs]
    simp
  rw [hone]
  have hcases := imageScreen_step_cases hs
  cases e with
  | willDisplay cell indexPath =>
    obtain ⟨hnew, rfl⟩ := hcases
    exact willDisplay_showsOwn_iff h hnew
  | didEndDisplaying cell indexPath =>
    have herased : ({ s with displayed := s.displayed.erase (cell, indexPath) } : ImageScreen).ShowsOwn :=
      fun d hd => h d (List.mem_of_mem_erase hd)
    rw [hcases]
    exact iff_of_true ((didEndDisplaying_same _ indexPath).showsOwn herased) trivial
  | prefetch indexPaths =>
    rw [hcases]
    exact iff_of_true ((prefetch_same s indexPaths).showsOwn h) trivial
  | cancelPrefetching indexPaths =>
    rw [hcases]
    exact iff_of_true ((cancelPrefetching_same s indexPaths).showsOwn h) trivial
  | advance i | callback i payload | finish i =>
    obtain ⟨o, -, hoperate⟩ := hcases
    exact iff_of_true ((operate_same hoperate).showsOwn h) trivial
  | completion i =>
    obtain ⟨o, block, hi, hb, rfl⟩ := hcases
    refine (completion_showsOwn_iff h block.cell o.operation.image ?_).trans ?_
    · exact ⟨rfl, rfl, rfl, rfl⟩
    · simp [BringsRight, hi, hb]
  | drain =>
    obtain ⟨cell, image, queue, hq, rfl⟩ := hcases
    exact iff_of_true (drain_showsOwn h hq) trivial
  | load model =>
    rw [hcases]
    exact load_showsOwn_iff h model

/-- **A cell shows its own record all along a run, exactly when no step brings a wrong
picture on screen.** Over any model and any run. -/
theorem shows_own_iff (model : IndexPath → Option URL) {es : List ImageEvent} {s : ImageScreen}
    (h : run ImageScreen.step (.launch model) es = some s) :
    Along ImageScreen.step (fun s e => ∀ x ∈ s.step e, x.ShowsOwn) (.launch model) es ↔
      Along ImageScreen.step BringsRight (.launch model) es :=
  along_iff_of_kept (fun s e s' _ hgood hstep => hgood s' hstep) showsOwn_iff es
    (by simp [ImageScreen.ShowsOwn, ImageScreen.launch]) h

/-- Two cells load their images; the first leaves, and comes back where the same image belongs. -/
def sameImageRun : List ImageEvent :=
  .willDisplay 0 (0, 0) :: .prefetch [(0, 1)] :: loads 0 ++
    .willDisplay 1 (0, 1) :: loads 1 ++ [.didEndDisplaying 0 (0, 0), .willDisplay 0 (0, 2)]

theorem shows_own_same_image :
    Along ImageScreen.step (fun s e => ∀ x ∈ s.step e, x.ShowsOwn) (.launch someImages) sameImageRun := by
  obtain ⟨s, h⟩ : ∃ s, run ImageScreen.step (.launch someImages) sameImageRun = some s := ⟨_, rfl⟩
  exact (shows_own_iff someImages h).2 (by decide)

/-- **A reused cell shows the record it showed before**: the main queue is empty, the cell is
on screen at item 1, whose image is `b`, and it shows `a`. -/
theorem reused_cell :
    ∃ s, run ImageScreen.step (.launch someImages)
        (.willDisplay 0 (0, 0) :: loads 0 ++ [.didEndDisplaying 0 (0, 0), .willDisplay 0 (0, 1)]) = some s ∧
      s.displayed = [(0, (0, 1))] ∧ s.mainQueue = [] ∧ s.model (0, 1) = some "b" ∧
        s.picture 0 = .image "a" ∧ ¬ s.ShowsOwn :=
  ⟨_, rfl, rfl, rfl, rfl, rfl, by decide⟩

end ArtExhibition
