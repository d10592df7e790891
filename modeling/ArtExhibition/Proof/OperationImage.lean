import ArtExhibition.Proof.LoadTable

/-!
# What an operation still delivers

`Delivers`: the operation gives a cell the image of its URL, as it still downloads it for the cell's
completion block or has the block scheduled with it. Of its events, two lose the image: a callback that
brings none (`callback_delivers`) and a cancellation that one of the two checks still sees
(`cancel_delivers`). The others keep what is delivered (`advance_delivers`, `finish_delivers`).
-/

namespace ArtExhibition

open Machine

/-- The download is still to come, or its callback is. -/
def DataLoadOperation.downloads {Image : Type} (o : DataLoadOperation Image) : Bool :=
  match o.start with
  | .notStarted | .checked => !o.isCancelled
  | .entered => true
  | .mainReturned | .returned => o.inFlight

/-- `start()` has a check of `isCancelled` before it. -/
def DataLoadOperation.stoppable {Image : Type} (o : DataLoadOperation Image) : Bool :=
  match o.start with
  | .notStarted | .checked => true
  | .entered | .mainReturned | .returned => false

/-- `main()` has returned. -/
def DataLoadOperation.late {Image : Type} (o : DataLoadOperation Image) : Bool :=
  o.start = .mainReturned || o.start = .returned

theorem late_of_inFlight {Image : Type} {o : DataLoadOperation Image} (h : o.Shaped)
    (hf : o.inFlight = true) : o.late = true ∧ o.state ≠ .finished := by
  revert h
  cases hst : o.start <;> simp +contextual [DataLoadOperation.Shaped, DataLoadOperation.late, hst, hf]

theorem late_cases {Image : Type} {o : DataLoadOperation Image} (h : o.late = true) :
    o.downloads = o.inFlight ∧ ¬ (o.stoppable ∨ o.start = .entered) := by
  revert h
  cases hst : o.start <;>
    simp [DataLoadOperation.late, DataLoadOperation.downloads, DataLoadOperation.stoppable, hst]

/-- The operation gives a cell, displayed at an index path, the image of a URL. -/
def LoadingOperation.Delivers (o : LoadingOperation) (d : Cell × IndexPath) (url : URL) : Prop :=
  o.url = url ∧ (o.operation.downloads ∧ o.completionBlock = some ⟨d.1, d.2⟩ ∨
    o.operation.image.isSome ∧ o.scheduled = some ⟨d.1, d.2⟩)

instance (o : LoadingOperation) (d : Cell × IndexPath) (url : URL) : Decidable (o.Delivers d url) :=
  inferInstanceAs (Decidable (_ ∧ _))

/-- What every operation is like: its image is that of its URL, and its block is scheduled only once
nothing more comes. -/
structure LoadingOperation.Sound (o : LoadingOperation) : Prop where
  shaped : o.operation.Shaped
  image : ∀ url ∈ o.operation.image, url = o.url
  stored : o.operation.download = .storing → o.operation.image.isSome
  early : o.operation.stoppable ∨ o.operation.start = .entered → o.operation.image = none
  scheduled : o.scheduled.isSome → o.operation.downloads = false

/-- An operation after one of its events; becoming finished schedules its completion block. -/
def LoadingOperation.operated (o : LoadingOperation) (operation : DataLoadOperation URL) :
    LoadingOperation :=
  { o with
    operation := operation
    scheduled := if operation.state = .finished ∧ o.operation.state ≠ .finished then
      o.completionBlock else o.scheduled }

variable {o : LoadingOperation} {operation : DataLoadOperation URL}

theorem not_delivers (hdownloads : o.operation.downloads = false) (himage : o.operation.image = none)
    (d : Cell × IndexPath) (url : URL) : ¬ o.Delivers d url := by
  simp [LoadingOperation.Delivers, hdownloads, himage]

theorem operated_eq (h : operation.state = .finished → o.operation.state = .finished) :
    o.operated operation = { o with operation := operation } := by
  unfold LoadingOperation.operated
  rw [if_neg fun hc => hc.2 (h hc.1)]

/-- **What keeps the downloads and the image** keeps what is delivered. -/
theorem same_delivers (h : o.Sound) (hshaped : operation.Shaped)
    (hdownloads : operation.downloads = o.operation.downloads)
    (himage : operation.image = o.operation.image)
    (hstored : operation.download = .storing → o.operation.download = .storing)
    (hearly : operation.stoppable ∨ operation.start = .entered →
      o.operation.stoppable ∨ o.operation.start = .entered) :
    { o with operation := operation }.Sound ∧
      ∀ d url, { o with operation := operation }.Delivers d url ↔ o.Delivers d url := by
  refine ⟨⟨hshaped, ?_, ?_, ?_, ?_⟩, fun d url => ?_⟩
  · exact himage ▸ h.image
  · exact fun hs => himage ▸ h.stored (hstored hs)
  · exact fun he => himage ▸ h.early (hearly he)
  · exact fun hs => hdownloads ▸ h.scheduled hs
  · simp only [LoadingOperation.Delivers, hdownloads, himage]

/-- **`start()` loses nothing.** -/
theorem advance_delivers (h : o.Sound) (hs : o.operation.advance = some operation) :
    (o.operated operation).Sound ∧ ∀ d url, (o.operated operation).Delivers d url ↔ o.Delivers d url := by
  have hshaped := h.shaped
  have hnext := step_shaped o.operation .advance operation hshaped hs
  by_cases hcancelled : o.operation.start = .notStarted ∧ o.operation.isCancelled = true
  · -- cancelled before its start: it had no image, and finishes without one
    obtain ⟨hst, hc⟩ := hcancelled
    have hnone : o.operation.image = none := h.early (.inl (by simp [DataLoadOperation.stoppable, hst]))
    have hlost : o.operation.downloads = false := by simp [DataLoadOperation.downloads, hst, hc]
    simp only [DataLoadOperation.Shaped, hst] at hshaped
    obtain rfl : { o.operation with state := .finished, start := .returned } = operation := by
      simpa [DataLoadOperation.advance, hst, hc] using hs
    have hidle := (late_cases (o := { o.operation with state := .finished, start := .returned }) rfl).1.trans
      hshaped.2
    refine ⟨⟨hnext, h.image, h.stored, fun _ => hnone, fun _ => hidle⟩, fun d url => ?_⟩
    refine iff_of_false ?_ (not_delivers hlost hnone d url)
    exact not_delivers (o := o.operated _) hidle hnone d url
  · rw [operated_eq fun hfinished => ?_]
    · rcases operation_advance_cases hs with ⟨hst, hc, rfl⟩ | ⟨hst, rfl⟩ | ⟨hst, hc, rfl⟩ | ⟨hst, hc, rfl⟩ |
        ⟨hst, rfl⟩ | ⟨hst, rfl⟩
      all_goals simp only [DataLoadOperation.Shaped, hst] at hshaped
      · exact absurd ⟨hst, hc⟩ hcancelled
      · refine same_delivers h hnext ?_ rfl id fun _ => .inl ?_
        · simp [DataLoadOperation.downloads, hst]
        · simp [DataLoadOperation.stoppable, hst]
      · refine same_delivers h hnext ?_ rfl id fun _ => .inl ?_
        · simpa [DataLoadOperation.downloads, DataLoadOperation.inFlight, hst, hc] using hshaped.2
        · simp [DataLoadOperation.stoppable, hst]
      · refine same_delivers h hnext ?_ rfl id fun _ => .inl ?_
        · simp [DataLoadOperation.downloads, hst, hc]
        · simp [DataLoadOperation.stoppable, hst]
      · refine same_delivers h hnext ?_ rfl (by rintro ⟨⟩) fun _ => .inr hst
        simp [DataLoadOperation.downloads, DataLoadOperation.inFlight, hst]
      · refine same_delivers h hnext ?_ rfl id (by simp [DataLoadOperation.stoppable])
        simp [DataLoadOperation.downloads, DataLoadOperation.inFlight, hst]
    · -- no other step of `start()` writes `.finished`
      rcases operation_advance_cases hs with ⟨hst, hc, rfl⟩ | ⟨-, rfl⟩ | ⟨-, -, rfl⟩ | ⟨-, -, rfl⟩ |
        ⟨-, rfl⟩ | ⟨-, rfl⟩
      · exact absurd ⟨hst, hc⟩ hcancelled
      all_goals first | exact hfinished | cases hfinished

/-- The image that a callback gives is the one of its URL. -/
theorem decodedImage_of (url : URL) (payload : DownloadPayload Unit) :
    (payload.of url).decodedImage = payload.decodedImage.map fun _ => url := by
  obtain ⟨file, error, decoded⟩ := payload
  cases error <;> cases file <;> rfl

/-- Nothing is scheduled while the callback is to come. -/
theorem not_scheduled (h : o.Sound) (hf : o.operation.inFlight = true) : o.scheduled = none := by
  by_contra hsome
  have hdone := h.scheduled (Option.isSome_iff_ne_none.2 hsome)
  rw [(late_cases (late_of_inFlight h.shaped hf).1).1, hf] at hdone
  cases hdone

theorem own_image (url : URL) (payload : DownloadPayload Unit) :
    ∀ image ∈ (payload.of url).decodedImage, image = url := by
  intro image himage
  rw [decodedImage_of, Option.mem_def, Option.map_eq_some_iff] at himage
  obtain ⟨-, -, rfl⟩ := himage
  rfl

/-- **A callback loses the image exactly if it brings none.** -/
theorem callback_delivers (h : o.Sound) {payload : DownloadPayload URL}
    (hown : ∀ url ∈ payload.decodedImage, url = o.url) (hs : o.operation.callback payload = some operation) :
    (o.operated operation).Sound ∧ ∀ d url, (o.operated operation).Delivers d url ↔
      o.Delivers d url ∧ payload.decodedImage ≠ none := by
  have hnext := step_shaped o.operation (.callback payload) operation h.shaped hs
  obtain ⟨hd, hcases⟩ := callback_cases hs
  have hf : o.operation.inFlight = true := by simp [DataLoadOperation.inFlight, hd]
  obtain ⟨hlate, hstate⟩ := late_of_inFlight h.shaped hf
  have hnone := not_scheduled h hf
  have hkept : operation.state = o.operation.state ∧ operation.late = true := by
    rcases hcases with ⟨image, -, rfl⟩ | ⟨-, rfl⟩ <;> exact ⟨rfl, hlate⟩
  obtain ⟨hdownloads, hnotEarly⟩ := late_cases hkept.2
  rw [operated_eq fun hfinished => hkept.1 ▸ hfinished]
  rcases hcases with ⟨image, hp, rfl⟩ | ⟨hp, rfl⟩
  · refine ⟨⟨hnext, ?_, fun _ => rfl, fun he => absurd he hnotEarly, ?_⟩, fun d url => ?_⟩
    · rintro _ ⟨⟩
      exact hown image hp
    · simp [hnone]
    · have hbefore := (late_cases hlate).1.trans hf
      have hafter := hdownloads.trans (show _ = true from rfl)
      simp [LoadingOperation.Delivers, hbefore, hafter, hnone, hp]
  · refine ⟨⟨hnext, h.image, by rintro ⟨⟩, fun he => absurd he hnotEarly, ?_⟩, fun d url => ?_⟩
    · simp [hnone]
    · have hafter := hdownloads.trans (show _ = false from rfl)
      simp [LoadingOperation.Delivers, hafter, hnone, hp]

/-- **The end of a callback** schedules the block that was to get the image. -/
theorem finish_delivers (h : o.Sound) (hs : o.operation.step .finish = some operation) :
    (o.operated operation).Sound ∧ ∀ d url, (o.operated operation).Delivers d url ↔ o.Delivers d url := by
  have hnext := step_shaped o.operation .finish operation h.shaped hs
  obtain ⟨hd, rfl⟩ := finish_cases hs
  have hf : o.operation.inFlight = true := by simp [DataLoadOperation.inFlight, hd]
  obtain ⟨hlate, hstate⟩ := late_of_inFlight h.shaped hf
  have hnone := not_scheduled h hf
  have hbefore := (late_cases hlate).1.trans hf
  obtain ⟨hdownloads, hnotEarly⟩ :=
    late_cases (o := { o.operation with state := .finished, download := .done }) hlate
  have hafter := hdownloads.trans (show _ = false from rfl)
  have himage := h.stored hd
  refine ⟨⟨hnext, h.image, by rintro ⟨⟩, fun he => absurd he hnotEarly, fun _ => hafter⟩, fun d url => ?_⟩
  simp [LoadingOperation.Delivers, LoadingOperation.operated, hbefore, hafter, hstate, hnone, himage]

/-- `dataLoader.cancel()`. -/
def LoadingOperation.cancelled (o : LoadingOperation) : LoadingOperation :=
  { o with operation := { o.operation with isCancelled := true } }

/-- **A cancellation loses the image exactly if `start()` still sees it.** -/
theorem cancel_delivers (h : o.Sound) :
    o.cancelled.Sound ∧ ∀ d url, o.cancelled.Delivers d url ↔
      o.Delivers d url ∧ o.operation.stoppable = false := by
  have hnext : o.cancelled.operation.Shaped := step_shaped o.operation .cancel _ h.shaped rfl
  have hdownloads : o.cancelled.operation.downloads = (o.operation.downloads && !o.operation.stoppable) := by
    cases hst : o.operation.start <;>
      simp [LoadingOperation.cancelled, DataLoadOperation.stoppable, DataLoadOperation.downloads,
        DataLoadOperation.inFlight, hst]
  cases hstop : o.operation.stoppable with
  | true =>
    have himage := h.early (.inl hstop)
    have hlost : o.cancelled.operation.downloads = false := by simp [hdownloads, hstop]
    refine ⟨⟨hnext, h.image, h.stored, fun _ => himage, fun _ => hlost⟩, fun d url => ?_⟩
    exact iff_of_false (not_delivers hlost himage d url) (by simp)
  | false =>
    obtain ⟨hsound, hdelivers⟩ := same_delivers h hnext (by simp [hdownloads, hstop]) rfl id id
    exact ⟨hsound, fun d url => (hdelivers d url).trans (by simp)⟩

/-- A completion block that is scheduled is all that is left to give. -/
theorem delivers_scheduled (h : o.Sound) {block : CompletionBlock} (hb : o.scheduled = some block)
    (d : Cell × IndexPath) (url : URL) :
    o.Delivers d url ↔ o.operation.image = some url ∧ block = ⟨d.1, d.2⟩ := by
  have hidle : o.operation.downloads = false := h.scheduled (by simp [hb])
  have himage := h.image
  cases hi : o.operation.image with
  | none => simp [LoadingOperation.Delivers, hidle, hi]
  | some image =>
    obtain rfl := himage image hi
    simp [LoadingOperation.Delivers, hidle, hi, hb]

end ArtExhibition
