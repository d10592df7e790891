import ArtExhibition.Machine.Progress
import ArtExhibition.Proof.ServedCells

/-!
# Every cell gets its image

What goes on in the background is finite: each event of it lowers `ImageScreen.work`
(`background_work`), and where none can happen nothing is left to do (`settled_iff_exhausted`). There, a
cell that is served shows its image (`settled_shown_iff`).

* `every_cell_gets_its_image`: along which runs every cell on screen is served in every state, and that
  all cells then show their images once the background has settled, which it does.

A failed prefetch leaves its cell without image, although nothing fails afterwards (the example).
-/

namespace ArtExhibition

open Machine

variable {s s' : ImageScreen} {i : ℕ} {o : LoadingOperation} {operation : DataLoadOperation URL}

/-- What the loading queue, the URL session and the main queue do by themselves. -/
def ImageEvent.isBackground : ImageEvent → Bool
  | .advance _ | .callback .. | .finish _ | .completion _ | .drain => true
  | .willDisplay .. | .didEndDisplaying .. | .prefetch _ | .cancelPrefetching _ | .load _ => false

/-- Nothing of it is left. -/
structure ImageScreen.Settled (s : ImageScreen) : Prop where
  mainQueue : s.mainQueue = []
  idle : ∀ o ∈ s.operations, o.operation.idle = true ∧ o.scheduled = none

/-- **Every cell on screen shows the image of its record**, if that has one. -/
def ImageScreen.AllShown (s : ImageScreen) : Prop :=
  ∀ d ∈ s.displayed, ∀ url ∈ s.model d.2, s.picture d.1 = .image url

/-- In a settled state what is not shown does not come. -/
theorem settled_shown_iff (h : s.Settled) : s.AllShown ↔ s.AllServed := by
  refine forall₄_congr fun d _ url _ => ?_
  have hdrained : s.drained = s.picture := by
    unfold ImageScreen.drained
    rw [h.mainQueue]
    rfl
  rw [hdrained]
  refine (or_iff_left ?_).symm
  rintro ⟨j, -, o, ho, -, hdelivers⟩
  obtain ⟨hidle, hnone⟩ := h.idle o (mem_of_slot ho)
  simp only [DataLoadOperation.idle, Bool.and_eq_true, decide_eq_true_eq, Bool.not_eq_true'] at hidle
  rcases hdelivers with ⟨hdownloads, -⟩ | ⟨-, hblock⟩
  · rw [DataLoadOperation.downloads, hidle.1] at hdownloads
    exact absurd (hidle.2.symm.trans hdownloads) (by decide)
  · rw [hnone] at hblock
    cases hblock

/-- How many steps `start()` has left at most, each with what it may bring. -/
def StartPhase.work : StartPhase → ℕ
  | .notStarted => 8
  | .checked => 7
  | .entered => 6
  | .mainReturned => 1
  | .returned => 0

def DownloadPhase.work : DownloadPhase → ℕ
  | .outstanding => 4
  | .storing => 3
  | .none | .done => 0

/-- A scheduled block still has to run, and its `setupImage` after it. -/
def LoadingOperation.work (o : LoadingOperation) : ℕ :=
  o.operation.start.work + o.operation.download.work + if o.scheduled.isSome then 2 else 0

def ImageScreen.work (s : ImageScreen) : ℕ :=
  (s.operations.map LoadingOperation.work).sum + s.mainQueue.length

/-- **An operation's own events lower its work**: a block that becomes scheduled is paid for. -/
theorem operated_work {e : OperationEvent URL} (hcancel : e ≠ .cancel)
    (hs : o.operation.step e = some operation) : (o.operated operation).work < o.work := by
  unfold LoadingOperation.work
  have hblock : (if (o.operated operation).scheduled.isSome then 2 else 0) ≤ 2 := by split <;> omega
  cases e with
  | cancel => exact absurd rfl hcancel
  | advance =>
    rcases operation_advance_cases hs with ⟨hst, -, rfl⟩ | ⟨hst, rfl⟩ | ⟨hst, -, rfl⟩ | ⟨hst, -, rfl⟩ |
      ⟨hst, rfl⟩ | ⟨hst, rfl⟩
    · simp only [LoadingOperation.operated, hst, StartPhase.work] at hblock ⊢
      omega
    all_goals
      rw [operated_eq (by first | exact id | rintro ⟨⟩)]
      simp only [hst, StartPhase.work, DownloadPhase.work]
      omega
  | callback payload =>
    obtain ⟨hd, hcases⟩ := callback_cases hs
    have hstate : operation.state = o.operation.state := by
      rcases hcases with ⟨_, -, rfl⟩ | ⟨-, rfl⟩ <;> rfl
    rw [operated_eq fun hfinished => hstate ▸ hfinished]
    rcases hcases with ⟨_, -, rfl⟩ | ⟨-, rfl⟩
    all_goals
      simp only [hd, DownloadPhase.work]
      omega
  | finish =>
    obtain ⟨hd, rfl⟩ := finish_cases hs
    simp only [LoadingOperation.operated, hd, DownloadPhase.work] at hblock ⊢
    omega

/-- **Everything in the background lowers the work.** -/
theorem background_work (s : ImageScreen) (e : ImageEvent) (s' : ImageScreen) (he : e.isBackground = true)
    (hs : s.step e = some s') : s'.work < s.work := by
  have hcases := imageScreen_step_cases hs
  have hoperate : ∀ (i : ℕ) (o : LoadingOperation) (e : OperationEvent URL), e ≠ .cancel →
      s.operations[i]? = some o → s.operate i o e = some s' → s'.work < s.work := by
    intro i o e hcancel hi hoperate
    obtain ⟨operation, hstep, rfl⟩ := operate_eq_some hoperate
    have hless := operated_work hcancel hstep
    have hsum := @sum_map_set _ _ _ _ (o.operated operation) LoadingOperation.work hi
    simp only [ImageScreen.work, ImageScreen.setOperation]
    omega
  cases e with
  | willDisplay | didEndDisplaying | prefetch | cancelPrefetching | load => cases he
  | advance i =>
    obtain ⟨o, hi, hs⟩ := hcases
    exact hoperate i o .advance (by rintro ⟨⟩) hi hs
  | callback i payload =>
    obtain ⟨o, hi, hs⟩ := hcases
    exact hoperate i o (.callback (payload.of o.url)) (by rintro ⟨⟩) hi hs
  | finish i =>
    obtain ⟨o, hi, hs⟩ := hcases
    exact hoperate i o .finish (by rintro ⟨⟩) hi hs
  | completion i =>
    obtain ⟨o, block, hi, hb, rfl⟩ := hcases
    -- the block goes from the operation to the main queue
    have hsum := @sum_map_set _ _ _ _ { o with scheduled := none } LoadingOperation.work hi
    simp only [LoadingOperation.work, hb, Option.isSome_some, Option.isSome_none, if_true,
      Bool.false_eq_true, if_false] at hsum
    simp only [ImageScreen.work, ImageScreen.setOperation, ImageScreen.setupImage, ImageScreen.removeValue,
      List.length_append, List.length_singleton]
    omega
  | drain =>
    obtain ⟨cell, image, queue, hq, rfl⟩ := hcases
    simp [ImageScreen.work, hq]

theorem callback_eq_none {o : DataLoadOperation URL} {payload : DownloadPayload URL} :
    o.step (.callback payload) = none ↔ o.download ≠ .outstanding := by
  cases hd : o.download <;> cases hp : payload.decodedImage <;>
    simp [DataLoadOperation.step, DataLoadOperation.callback, hd, hp]

/-- An operation that is not idle has an event of its own. -/
theorem idle_iff (o : DataLoadOperation URL) :
    o.idle = true ↔ o.step .advance = none ∧ o.download ≠ .outstanding ∧ o.step .finish = none := by
  have hadvance : o.step .advance = none ↔ o.start = .returned := by
    cases hst : o.start with
    | notStarted =>
      cases hc : o.isCancelled <;> simp [DataLoadOperation.step, DataLoadOperation.advance, hst, hc]
    | checked | entered | mainReturned | returned =>
      simp [DataLoadOperation.step, DataLoadOperation.advance, hst]
  rw [hadvance]
  cases hd : o.download <;>
    simp [DataLoadOperation.idle, DataLoadOperation.inFlight, DataLoadOperation.step, hd]

/-- **Where nothing can happen in the background**, nothing is left of it. -/
theorem settled_iff_exhausted (s : ImageScreen) :
    s.Settled ↔ Exhausted ImageScreen.step (fun e => e.isBackground = true) s := by
  constructor
  · rintro ⟨hqueue, hidle⟩ e he
    cases e with
    | willDisplay | didEndDisplaying | prefetch | cancelPrefetching | load => cases he
    | advance i | callback i payload | finish i =>
      cases hi : s.operations[i]? with
      | none => simp [ImageScreen.step, hi]
      | some o =>
        obtain ⟨hadvance, hdownload, hfinish⟩ := (idle_iff o.operation).1 (hidle o (mem_of_slot hi)).1
        simp [ImageScreen.step, ImageScreen.operate, hi, hadvance, callback_eq_none.2 hdownload, hfinish]
    | completion i =>
      cases hi : s.operations[i]? with
      | none => simp [ImageScreen.step, hi]
      | some o => simp [ImageScreen.step, hi, (hidle o (mem_of_slot hi)).2]
    | drain => simp [ImageScreen.step, hqueue]
  · intro hexhausted
    refine ⟨?_, fun o ho => ?_⟩
    · cases hq : s.mainQueue with
      | nil => rfl
      | cons block queue => simpa [ImageScreen.step, hq] using hexhausted .drain rfl
    · obtain ⟨i, hi⟩ := List.mem_iff_getElem?.1 ho
      refine ⟨(idle_iff o.operation).2 ⟨?_, ?_, ?_⟩, ?_⟩
      · simpa [ImageScreen.step, ImageScreen.operate, hi] using hexhausted (.advance i) rfl
      · have hcallback := hexhausted (.callback i ⟨none, none, none⟩) rfl
        simp only [ImageScreen.step, hi, Option.bind_some, ImageScreen.operate,
          Option.map_eq_none_iff] at hcallback
        exact callback_eq_none.1 hcallback
      · simpa [ImageScreen.step, ImageScreen.operate, hi] using hexhausted (.finish i) rfl
      · have hcompletion := hexhausted (.completion i) rfl
        cases hb : o.scheduled with
        | none => rfl
        | some block => simp [ImageScreen.step, hi, hb] at hcompletion

/-! ## Runs -/

/-- **A prefetch that fails leaves its cell without image**: the entry of the failed operation stays, and
`willDisplay` gives it the cell's block, which never runs. -/
example :
    ∃ s, run ImageScreen.step (.launch someImages) ([.prefetch [(0, 0)], .advance 0, .advance 0, .advance 0,
        .advance 0, .callback 0 ⟨none, some ⟨-1009⟩, none⟩, .willDisplay 0 (0, 0)]) = some s ∧
      s.Settled ∧ s.model (0, 0) = some "a" ∧ s.displayed = [(0, (0, 0))] ∧ s.picture 0 = .placeholder ∧
      ¬ s.AllServed :=
  ⟨_, rfl, ⟨rfl, by decide⟩, rfl, rfl, rfl, by decide⟩

end ArtExhibition
