import ArtExhibition.Spec.Operation

/-!
# The life cycle of a load

`start()` writes `.executing` after `main()`, `main()` returns early on a cancellation, and a
failed download never finishes the operation. `OnTime` excludes these three: no cancellation
between the two checks, a download that decodes, and a callback that finishes only after
`start()` has returned.

`lifecycle_iff`: along the runs that meet it `state` only moves forward, and an operation with
nothing left to do is finished exactly when its run met it. The invariant is `Healthy`: once
`main()` has returned, the callback is still to come or the operation is finished for good.
-/

namespace ArtExhibition

open Machine

variable {Image : Type}

/-- The download's callback is still to come, or running. -/
def DataLoadOperation.inFlight (o : DataLoadOperation Image) : Bool :=
  match o.download with
  | .outstanding | .storing => true
  | .none | .done => false

/-- `start()` has returned and no callback is outstanding. -/
def DataLoadOperation.idle (o : DataLoadOperation Image) : Bool := o.start = .returned && !o.inFlight

/-- The step moves `state` forward, or leaves it. -/
def Forward (o : DataLoadOperation Image) (e : OperationEvent Image) : Prop :=
  ∀ o' ∈ o.step e, o.state.rank ≤ o'.state.rank

instance (o : DataLoadOperation Image) (e : OperationEvent Image) : Decidable (Forward o e) :=
  inferInstanceAs (Decidable (∀ o' ∈ o.step e, o.state.rank ≤ o'.state.rank))

/-- The condition on a step: `main`'s check finds the operation not cancelled, the callback
gets an image, and it finishes the operation after `start()` has returned. -/
def OnTime (o : DataLoadOperation Image) : OperationEvent Image → Prop
  | .advance => o.start = .checked → o.isCancelled = false
  | .callback payload => payload.decodedImage.isSome
  | .finish => o.start = .returned
  | .cancel => True

instance (o : DataLoadOperation Image) : ∀ e : OperationEvent Image, Decidable (OnTime o e)
  | .advance => inferInstanceAs (Decidable (o.start = .checked → o.isCancelled = false))
  | .callback payload => inferInstanceAs (Decidable (payload.decodedImage.isSome = true))
  | .finish => inferInstanceAs (Decidable (o.start = .returned))
  | .cancel => .isTrue trivial

/-- What every reachable operation is like: before `main()` has gone into its download it is
ready; while the callback is to come, `state` is what `start()` last wrote. -/
def DataLoadOperation.Shaped (o : DataLoadOperation Image) : Prop :=
  match o.start with
  | .notStarted | .checked | .entered => o.state = .ready ∧ o.inFlight = false
  | .mainReturned => o.inFlight → o.state = .ready
  | .returned => o.inFlight → o.state = .executing

/-- Once `main()` has returned, the callback is still to come or the operation is finished. -/
def DataLoadOperation.Healthy (o : DataLoadOperation Image) : Prop :=
  match o.start with
  | .notStarted | .checked | .entered => True
  | .mainReturned => o.inFlight
  | .returned => o.inFlight ∨ o.state = .finished

/-- **One step of `start()`**: the two checks, the download, and the two writes of `state`. -/
theorem operation_advance_cases {o o' : DataLoadOperation Image} (h : o.advance = some o') :
    (o.start = .notStarted ∧ o.isCancelled = true ∧
        o' = { o with state := .finished, start := .returned }) ∨
      (o.start = .notStarted ∧ o' = { o with start := .checked }) ∨
      (o.start = .checked ∧ o.isCancelled = true ∧ o' = { o with start := .mainReturned }) ∨
      (o.start = .checked ∧ o.isCancelled = false ∧ o' = { o with start := .entered }) ∨
      (o.start = .entered ∧ o' = { o with start := .mainReturned, download := .outstanding }) ∨
      (o.start = .mainReturned ∧ o' = { o with state := .executing, start := .returned }) := by
  unfold DataLoadOperation.advance at h
  cases hst : o.start with
  | notStarted =>
    rw [hst] at h
    dsimp only at h
    by_cases hc : o.isCancelled = true
    · rw [if_pos hc, Option.some.injEq] at h
      exact .inl ⟨rfl, hc, h.symm⟩
    · rw [if_neg hc, Option.some.injEq] at h
      exact .inr (.inl ⟨rfl, h.symm⟩)
  | checked =>
    rw [hst] at h
    dsimp only at h
    by_cases hc : o.isCancelled = true
    · rw [if_pos hc, Option.some.injEq] at h
      exact .inr (.inr (.inl ⟨rfl, hc, h.symm⟩))
    · rw [if_neg hc, Option.some.injEq] at h
      exact .inr (.inr (.inr (.inl ⟨rfl, by simpa using hc, h.symm⟩)))
  | entered =>
    rw [hst] at h
    exact .inr (.inr (.inr (.inr (.inl ⟨rfl, (Option.some.inj h).symm⟩))))
  | mainReturned =>
    rw [hst] at h
    exact .inr (.inr (.inr (.inr (.inr ⟨rfl, (Option.some.inj h).symm⟩))))
  | returned =>
    rw [hst] at h
    cases h

/-- A callback that is delivered: what it leaves of the operation. -/
theorem callback_cases {o o' : DataLoadOperation Image} {payload : DownloadPayload Image}
    (h : o.callback payload = some o') :
    o.download = .outstanding ∧
      ((∃ image, payload.decodedImage = some image ∧
          o' = { o with image := some image, download := .storing }) ∨
        (payload.decodedImage = none ∧ o' = { o with download := .done })) := by
  unfold DataLoadOperation.callback at h
  split at h
  · rename_i image hd hp
    exact ⟨hd, .inl ⟨image, hp, (Option.some.inj h).symm⟩⟩
  · rename_i hd hp
    exact ⟨hd, .inr ⟨hp, (Option.some.inj h).symm⟩⟩
  · cases h

theorem finish_cases {o o' : DataLoadOperation Image} (h : o.step .finish = some o') :
    o.download = .storing ∧ o' = { o with state := .finished, download := .done } := by
  simp only [DataLoadOperation.step] at h
  split at h
  · rename_i hd
    exact ⟨hd, (Option.some.inj h).symm⟩
  · cases h

/-- **Every reachable operation is shaped so**, whatever happens to it. -/
theorem step_shaped (o : DataLoadOperation Image) (e : OperationEvent Image) (o' : DataLoadOperation Image)
    (h : o.Shaped) (hs : o.step e = some o') : o'.Shaped := by
  cases e with
  | advance =>
    rcases operation_advance_cases hs with ⟨hst, -, rfl⟩ | ⟨hst, rfl⟩ | ⟨hst, -, rfl⟩ | ⟨hst, -, rfl⟩ |
      ⟨hst, rfl⟩ | ⟨hst, rfl⟩
    all_goals simp only [DataLoadOperation.Shaped, DataLoadOperation.inFlight, hst] at h ⊢
    · -- cancelled before its start, an operation has no download
      simp [h.2]
    · exact h
    · simp [h.2]
    · exact h
    · exact fun _ => h.1
    · exact fun _ => trivial
  | callback payload =>
    obtain ⟨hd, ⟨image, -, rfl⟩ | ⟨-, rfl⟩⟩ := callback_cases hs
    · simpa [DataLoadOperation.Shaped, DataLoadOperation.inFlight, hd] using h
    · revert h
      cases hst : o.start <;> simp [DataLoadOperation.Shaped, DataLoadOperation.inFlight, hd, hst]
  | finish =>
    obtain ⟨hd, rfl⟩ := finish_cases hs
    revert h
    cases hst : o.start <;> simp [DataLoadOperation.Shaped, DataLoadOperation.inFlight, hd, hst]
  | cancel =>
    obtain rfl := Option.some.inj hs
    exact h

/-- **One step takes health away exactly when it breaks the condition.** -/
theorem step_healthy_iff (o : DataLoadOperation Image) (e : OperationEvent Image)
    (o' : DataLoadOperation Image) (h : o.Shaped) (hs : o.step e = some o') :
    o'.Healthy ↔ o.Healthy ∧ OnTime o e := by
  cases e with
  | advance =>
    rcases operation_advance_cases hs with ⟨hst, -, rfl⟩ | ⟨hst, rfl⟩ | ⟨hst, hc, rfl⟩ | ⟨hst, hc, rfl⟩ |
      ⟨hst, rfl⟩ | ⟨hst, rfl⟩
    all_goals simp only [DataLoadOperation.Shaped, hst] at h
    all_goals simp only [DataLoadOperation.Healthy, OnTime, hst]
    · simp
    · simp
    · -- `main()` has returned, and no callback will come
      have hsame : DataLoadOperation.inFlight { o with start := .mainReturned } = o.inFlight := rfl
      rw [hsame, h.2, hc]
      simp
    · simp [hc]
    · simp [DataLoadOperation.inFlight]
    · have hsame : DataLoadOperation.inFlight { o with state := .executing, start := .returned } =
          o.inFlight := rfl
      simp [hsame]
  | callback payload =>
    -- a callback comes only once `main()` has started the download
    obtain ⟨hd, ⟨image, hp, rfl⟩ | ⟨hp, rfl⟩⟩ := callback_cases hs
    · simp [DataLoadOperation.Healthy, DataLoadOperation.inFlight, OnTime, hd, hp]
    · revert h
      cases hst : o.start <;>
        simp +contextual [DataLoadOperation.Shaped, DataLoadOperation.Healthy,
          DataLoadOperation.inFlight, OnTime, hd, hp, hst]
  | finish =>
    obtain ⟨hd, rfl⟩ := finish_cases hs
    revert h
    cases hst : o.start <;>
      simp +contextual [DataLoadOperation.Shaped, DataLoadOperation.Healthy,
        DataLoadOperation.inFlight, OnTime, hd, hst]
  | cancel =>
    obtain rfl := Option.some.inj hs
    simp [DataLoadOperation.Healthy, DataLoadOperation.inFlight, OnTime]

/-- A healthy operation moves forward. -/
theorem forward_of_healthy (o : DataLoadOperation Image) (e : OperationEvent Image) (h : o.Shaped)
    (hh : o.Healthy) : Forward o e := by
  intro o' hs
  cases e with
  | advance =>
    rcases operation_advance_cases hs with ⟨hst, -, rfl⟩ | ⟨-, rfl⟩ | ⟨-, -, rfl⟩ | ⟨-, -, rfl⟩ | ⟨-, rfl⟩ |
      ⟨hst, rfl⟩
    · simp only [DataLoadOperation.Shaped, hst] at h
      rw [h.1]
      exact Nat.zero_le _
    · exact Nat.le_refl _
    · exact Nat.le_refl _
    · exact Nat.le_refl _
    · exact Nat.le_refl _
    · -- the callback is still to come, so `state` has not been written yet
      simp only [DataLoadOperation.Healthy, hst] at hh
      simp only [DataLoadOperation.Shaped, hst] at h
      rw [h hh]
      exact Nat.zero_le _
  | callback payload =>
    obtain ⟨-, ⟨image, -, rfl⟩ | ⟨-, rfl⟩⟩ := callback_cases hs <;> exact Nat.le_refl _
  | finish =>
    obtain ⟨-, rfl⟩ := finish_cases hs
    cases o.state <;> simp [OperationState.rank]
  | cancel =>
    obtain rfl := Option.some.inj hs
    exact Nat.le_refl _

/-- **The life cycle of an operation.** Along every run whose steps all meet `OnTime`, `state`
only moves forward; and an operation that a run leaves idle is finished iff all its steps
met `OnTime`. -/
theorem lifecycle_iff {es : List (OperationEvent Image)} {o : DataLoadOperation Image}
    (h : run DataLoadOperation.step .new es = some o) :
    (Along DataLoadOperation.step OnTime .new es → Along DataLoadOperation.step Forward .new es) ∧
      (o.idle → (o.state = .finished ↔ Along DataLoadOperation.step OnTime .new es)) := by
  have hnew : (DataLoadOperation.new : DataLoadOperation Image).Shaped := ⟨rfl, rfl⟩
  constructor
  · refine along_of_inv (I := fun o : DataLoadOperation Image => o.Shaped ∧ o.Healthy) ?_ ?_ es
      ⟨hnew, trivial⟩
    · rintro o e o' ⟨hs, hh⟩ hok hstep
      exact ⟨step_shaped o e o' hs hstep, (step_healthy_iff o e o' hs hstep).2 ⟨hh, hok⟩⟩
    · rintro o e ⟨hs, hh⟩ -
      exact forward_of_healthy o e hs hh
  · intro hidle
    have hhealthy : o.Healthy ↔ Along DataLoadOperation.step OnTime .new es := by
      rw [holds_iff_along step_shaped step_healthy_iff es hnew h]
      simp [DataLoadOperation.Healthy, DataLoadOperation.new]
    simp only [DataLoadOperation.idle, Bool.and_eq_true, decide_eq_true_eq, Bool.not_eq_true'] at hidle
    rw [← hhealthy]
    simp [DataLoadOperation.Healthy, hidle.1, hidle.2]

/-- A load that is cancelled while its download runs, and finishes when that is in. -/
def lateCancelRun : List (OperationEvent String) :=
  [.advance, .advance, .advance, .advance, .cancel, .callback ⟨some "/tmp/x", none, some "picture"⟩,
    .finish]

theorem lifecycle_late_cancel :
    Along DataLoadOperation.step Forward .new lateCancelRun ∧
      ∃ o, run DataLoadOperation.step .new lateCancelRun = some o ∧ o.state = .finished := by
  obtain ⟨o, h, hidle⟩ : ∃ o, run DataLoadOperation.step .new lateCancelRun = some o ∧ o.idle :=
    ⟨_, rfl, rfl⟩
  have hok : Along DataLoadOperation.step OnTime .new lateCancelRun := by decide
  exact ⟨(lifecycle_iff h).1 hok, o, h, ((lifecycle_iff h).2 hidle).2 hok⟩

/-- **A failed download holds its slot for good**: nothing is left to do, and the operation
is executing. Cancelled between the two checks, it is held without any download; with a
callback before `state = .executing`, it leaves `.finished` again. -/
theorem slot_held :
    (∃ o : DataLoadOperation String, run DataLoadOperation.step .new
        [.advance, .advance, .advance, .advance, .callback ⟨none, some ⟨-1009⟩, none⟩] = some o ∧
      o.idle ∧ o.state = .executing) ∧
    (∃ o : DataLoadOperation String, run DataLoadOperation.step .new
        [.advance, .cancel, .advance, .advance] = some o ∧ o.idle ∧ o.state = .executing) ∧
    ¬ Along DataLoadOperation.step Forward .new
      [.advance, .advance, .advance, .callback ⟨some "/tmp/x", none, some "picture"⟩, .finish,
        .advance] :=
  ⟨⟨_, rfl, rfl, rfl⟩, ⟨_, rfl, rfl, rfl⟩, by decide⟩

end ArtExhibition
