import ArtExhibition.Proof.FailedReloads
import ArtExhibition.Proof.IndexPaths
import ArtExhibition.Spec.Appearance

/-!
# What a screen shows once its loads have ended

A load may end, and set its property, while the screen has no observation: its update is announced
to nobody. `screens_show_their_models`: home and news make up for it, since every appearance starts a
load, and every load of theirs assigns; once they have settled, a screen that has appeared shows its
view model: the header and the cells of every section. The screen of a record shows the person and the
records as soon as one load has succeeded since it appeared; a load that fails assigns nothing and makes
up for nothing (the example).
-/

namespace ArtExhibition

open Machine Networking

variable {V S R : Type} {p : ObservedProperty V S R} {s s' : AppearingScreen V S} {e : AppearanceEvent R}

/-! ## Steps -/

/-- **What a step does** to the mirror and to the loads. -/
theorem appearance_step_cases (h : p.step s e = some s') :
    (s'.toMirror = s.toMirror ∧ s.loads ≤ s'.loads ∧ ∀ result, e ≠ .loadEnds result) ∨
    (∃ result, e = .loadEnds result ∧ p.assign result s.value = none ∧ s'.toMirror = s.toMirror) ∨
    (∃ result v, e = .loadEnds result ∧ p.assign result s.value = some v ∧ s'.toMirror = s.write v) ∨
    (e = .didSet ∧ s.announce s.observations = some s'.toMirror ∧ s'.loads = s.loads) ∨
    (e = .runBlock ∧ s.refresh p.display = some s'.toMirror ∧ s'.loads = s.loads) := by
  cases e with
  | viewWillAppear | viewDidAppear | viewWillDisappear | viewDidDisappear =>
    cases h
    exact Or.inl ⟨rfl, by simp, by simp⟩
  | loadEnds result =>
    unfold ObservedProperty.step at h
    dsimp only at h
    split at h
    · cases h
    · split at h
      · next v hassign =>
        cases h
        exact Or.inr (Or.inr (Or.inl ⟨result, v, rfl, hassign, rfl⟩))
      · next hassign =>
        cases h
        exact Or.inr (Or.inl ⟨result, rfl, hassign, rfl⟩)
  | didSet =>
    obtain ⟨mirror, hannounce, rfl⟩ := Option.map_eq_some_iff.1 h
    exact Or.inr (Or.inr (Or.inr (Or.inl ⟨rfl, hannounce, rfl⟩)))
  | runBlock =>
    obtain ⟨mirror, hrefresh, rfl⟩ := Option.map_eq_some_iff.1 h
    exact Or.inr (Or.inr (Or.inr (Or.inr ⟨rfl, hrefresh, rfl⟩)))

/-- A load that assigns leaves an update to announce. -/
theorem current_of_loadEnds {result : R} (hassigns : (p.assign result s.value).isSome)
    (h : p.step s (.loadEnds result) = some s') : s'.Current p.display := by
  rcases appearance_step_cases h with ⟨-, -, hno⟩ | ⟨_, he, hnone, -⟩ | ⟨_, v, -, -, hwrite⟩ |
    ⟨he, -⟩ | ⟨he, -⟩
  · exact absurd rfl (hno result)
  · cases he
    rw [hnone] at hassigns
    cases hassigns
  · rw [hwrite]
    exact Mirror.current_write v _
  · cases he
  · cases he

/-- Only `viewDidDisappear` takes observations away. -/
theorem observed_step (h : p.step s e = some s') (he : e ≠ .viewDidDisappear) :
    s.observations ≤ s'.observations := by
  cases e with
  | viewWillAppear | viewDidAppear | viewWillDisappear => cases h; simp
  | viewDidDisappear => exact absurd rfl he
  | loadEnds result =>
    unfold ObservedProperty.step at h
    dsimp only at h
    split at h
    · cases h
    · split at h <;> cases h <;> exact le_rfl
  | didSet =>
    obtain ⟨mirror, -, rfl⟩ := Option.map_eq_some_iff.1 h
    exact le_rfl
  | runBlock =>
    obtain ⟨mirror, -, rfl⟩ := Option.map_eq_some_iff.1 h
    exact le_rfl

/-- **An observed screen stays current.** -/
theorem appearing_current_step (h : p.step s e = some s') (hobserved : 0 < s.observations)
    (hcurrent : s.Current p.display) : s'.Current p.display := by
  rcases appearance_step_cases h with ⟨hsame, -⟩ | ⟨_, -, -, hsame⟩ | ⟨_, v, -, -, hwrite⟩ |
    ⟨-, hannounce, -⟩ | ⟨-, hrefresh, -⟩
  · rw [hsame]
    exact hcurrent
  · rw [hsame]
    exact hcurrent
  · rw [hwrite]
    exact Mirror.current_write v _
  · exact Mirror.current_announce hobserved hannounce
  · exact Mirror.current_refresh hrefresh

/-- **A screen that waits for a load** goes on waiting or is current, if all its loads assign. -/
theorem awaiting_step (hassigns : ∀ result v, (p.assign result v).isSome) (h : p.step s e = some s')
    (hloads : 0 < s.loads) : 0 < s'.loads ∨ s'.Current p.display := by
  rcases appearance_step_cases h with ⟨-, hkept, -⟩ | ⟨result, rfl, -⟩ | ⟨result, v, rfl, -⟩ |
    ⟨-, -, hkept⟩ | ⟨-, -, hkept⟩
  · exact Or.inl (lt_of_lt_of_le hloads hkept)
  · exact Or.inr (current_of_loadEnds (hassigns result s.value) h)
  · exact Or.inr (current_of_loadEnds (hassigns result s.value) h)
  · exact Or.inl (hkept ▸ hloads)
  · exact Or.inl (hkept ▸ hloads)

/-! ## Runs -/

/-- From the `viewWillAppear` on, a screen that does not disappear is observed. -/
theorem observed_run {events : List (AppearanceEvent R)} (hevents : ∀ e ∈ events, e ≠ .viewDidDisappear)
    (hr : run p.step s (.viewWillAppear :: events) = some s') : 0 < s'.observations := by
  obtain ⟨appeared, happear, hr⟩ := run_cons.1 hr
  refine run_inv_forall (I := fun s => 0 < s.observations)
    (fun s e s' hs (he : e ≠ .viewDidDisappear) h => ?_) hevents ?_ hr
  · exact lt_of_lt_of_le hs (observed_step h he)
  · cases happear
    exact Nat.succ_pos _

/-- The steps of an observed screen that keep `I`, until it disappears. -/
theorem kept_until_disappearance {I : AppearingScreen V S → Prop}
    (hkeep : ∀ s e s', 0 < s.observations → I s → p.step s e = some s' → I s')
    {events : List (AppearanceEvent R)} (hevents : ∀ e ∈ events, e ≠ .viewDidDisappear)
    (hobserved : 0 < s.observations) (hs : I s) (hr : run p.step s events = some s') : I s' :=
  (run_inv_forall (I := fun s => 0 < s.observations ∧ I s)
    (fun s e s' hs (he : e ≠ .viewDidDisappear) h =>
      ⟨lt_of_lt_of_le hs.1 (observed_step h he), hkeep s e s' hs.1 hs.2 h⟩)
    hevents ⟨hobserved, hs⟩ hr).2

/-- A run whose last appearance has a `viewWillAppear` and, later, the event `e`. -/
theorem run_appearance {s₀ : AppearingScreen V S} {before between after : List (AppearanceEvent R)}
    (hevents : ∀ e ∈ between ++ after, e ≠ .viewDidDisappear)
    (hr : run p.step s₀ (before ++ .viewWillAppear :: (between ++ e :: after)) = some s) :
    ∃ s₁ s₂, 0 < s₁.observations ∧ p.step s₁ e = some s₂ ∧ run p.step s₂ after = some s := by
  obtain ⟨_, -, hr⟩ := run_append.1 hr
  rw [← List.cons_append] at hr
  obtain ⟨s₁, hbetween, hr⟩ := run_append.1 hr
  obtain ⟨s₂, hstep, hafter⟩ := run_cons.1 hr
  exact ⟨s₁, s₂, observed_run (fun e he => hevents e (List.mem_append_left _ he)) hbetween, hstep, hafter⟩

/-- Where every appearance starts a load: a settled screen that has appeared shows its view model. -/
def ObservedProperty.ShowsOnceSettled (p : ObservedProperty V S R) : Prop :=
  ∀ (v : V) (shown : S) (before between after : List (AppearanceEvent R)) (s : AppearingScreen V S),
    (∀ e ∈ between ++ after, e ≠ .viewDidDisappear) →
    run p.step (.new v shown) (before ++ .viewWillAppear :: (between ++ .viewDidAppear :: after)) = some s →
    s.Settled → s.shown = p.display s.value

/-- A settled screen shows its view model if a load has succeeded since the screen appeared. -/
def ObservedProperty.ShowsAfterSuccess (p : ObservedProperty V S R) : Prop :=
  ∀ (v : V) (shown : S) (before between after : List (AppearanceEvent R)) (result : R)
    (s : AppearingScreen V S),
    (∀ e ∈ between ++ after, e ≠ .viewDidDisappear) → (∀ v, (p.assign result v).isSome) →
    run p.step (.new v shown) (before ++ .viewWillAppear :: (between ++ .loadEnds result :: after)) = some s →
    s.Settled → s.shown = p.display s.value

theorem showsOnceSettled (hassigns : ∀ result v, (p.assign result v).isSome) : p.ShowsOnceSettled := by
  intro v shown before between after s hevents hr hsettled
  obtain ⟨s₁, s₂, hobserved, happear, hafter⟩ := run_appearance hevents hr
  have hobserved' := lt_of_lt_of_le hobserved (observed_step happear (by simp))
  have hloads : 0 < s₂.loads := by
    cases happear
    exact Nat.succ_pos _
  have hkept : 0 < s.loads ∨ s.Current p.display := by
    refine kept_until_disappearance (I := fun s => 0 < s.loads ∨ s.Current p.display) ?_
      (fun e he => hevents e (List.mem_append_right _ he)) hobserved' (Or.inl hloads) hafter
    intro s e s' hobserved hs h
    rcases hs with hloads | hcurrent
    · exact awaiting_step hassigns h hloads
    · exact Or.inr (appearing_current_step h hobserved hcurrent)
  refine Mirror.shown_eq_of_quiet (hkept.resolve_left ?_) hsettled.quiet
  rw [hsettled.loads]
  exact Nat.lt_irrefl 0

theorem showsAfterSuccess (p : ObservedProperty V S R) : p.ShowsAfterSuccess := by
  intro v shown before between after result s hevents hassigns hr hsettled
  obtain ⟨s₁, s₂, hobserved, hload, hafter⟩ := run_appearance hevents hr
  have hcurrent := current_of_loadEnds (hassigns s₁.value) hload
  have hobserved' := lt_of_lt_of_le hobserved (observed_step hload (by simp))
  have hkept : s.Current p.display :=
    kept_until_disappearance (fun s e s' hobserved hs h => appearing_current_step h hobserved hs)
      (fun e he => hevents e (List.mem_append_right _ he)) hobserved' hcurrent hafter
  exact Mirror.shown_eq_of_quiet hkept hsettled.quiet

/-! ## What a reload shows -/

/-- One cell for each record, and one without record where there are none. -/
def cellsOf {Cell : Type} : Option (List Cell) → List (Option Cell)
  | none => [none]
  | some cells => cells.map some

theorem itemsShown_eq {Cell : Type} {cells : Option (List Cell)} {count : ℕ → Except Trap ℕ}
    {cell : IndexPath → Except Trap (Option Cell)} {section_ : ℕ}
    (hcount : count section_ = .ok (itemCount cells))
    (hcell : ∀ item < itemCount cells, cell (section_, item) = .ok (cells.bind (·[item]?))) :
    itemsShown count cell section_ = .ok (cellsOf cells) := by
  have hitems : (List.range (itemCount cells)).mapM (fun item => cell (section_, item)) =
      .ok ((List.range (itemCount cells)).map fun item => cells.bind (·[item]?)) :=
    mapM_ok fun item hitem => hcell item (List.mem_range.1 hitem)
  rw [itemsShown, hcount, ok_bind, hitems]
  cases cells with
  | none => rfl
  | some cells => exact congrArg Except.ok (map_getElem?_range cells)

/-- A loaded home screen. -/
theorem home_shown (model : List (Option HardvardMuseumObject)) :
    HomeViewModel.shown ⟨model, true⟩ = .ok (model.map fun object =>
      ((object.bind (·.info)).map HomeHeaderCollectionViewModel.mk,
        cellsOf ((object.bind (·.records)).map (·.map HomeCollectionCellViewModel.mk)))) := by
  have hsections : ∀ section_ ∈ List.range model.length, (do
      let header ← HomeViewModel.createHomeHeaderCollectionViewModel ⟨model, true⟩ (section_, 0)
      let cells ← itemsShown (HomeViewModel.numberOfItemsInSection ⟨model, true⟩)
        (HomeViewModel.createHardvardMuseumObjectRecord ⟨model, true⟩) section_
      return (header, cells)) =
        .ok ((model[section_]?.join.bind (·.info)).map HomeHeaderCollectionViewModel.mk,
          cellsOf (homeSections model)[section_]?.join) := by
    intro section_ hmem
    have hs : section_ < model.length := List.mem_range.1 hmem
    have hsections : section_ < (homeSections model).length := by simpa [homeSections] using hs
    have hjoin : (homeSections model)[section_]?.join = (homeSections model)[section_] := by
      rw [List.getElem?_eq_getElem hsections]
      rfl
    have hcells := @itemsShown_eq _ (homeSections model)[section_]
      (HomeViewModel.numberOfItemsInSection ⟨model, true⟩)
      (HomeViewModel.createHardvardMuseumObjectRecord ⟨model, true⟩) section_
      (home_counts model section_ hsections) fun item hitem => by
        obtain ⟨record, hr, hcell⟩ := @home_record_eq model (section_, item) hsections (by rwa [hjoin])
        rw [HomeViewModel.createHardvardMuseumObjectRecord, if_pos rfl, hr, ok_bind]
        exact congrArg Except.ok (hcell.trans (by rw [recordAt, hjoin]))
    rw [HomeViewModel.createHomeHeaderCollectionViewModel, if_pos rfl,
      subscript_of_getElem? (List.getElem?_eq_getElem hs), hcells, hjoin, List.getElem?_eq_getElem hs]
    rfl
  rw [HomeViewModel.shown, show HomeViewModel.numberOfSections ⟨model, true⟩ = model.length from rfl,
    mapM_ok hsections]
  refine congrArg Except.ok (List.ext_getElem (by simp) fun i h _ => ?_)
  have hi : i < model.length := by simpa using h
  simp [homeSections, hi]

/-- A view of one section, as the other two screens have. -/
theorem single_shown {R S : Type} (records : Option (List R)) (f : R → S)
    {cell : IndexPath → Except Trap (Option S)}
    (hnone : records = none → ∀ indexPath, cell indexPath = .ok none)
    (hsome : ∀ list, records = some list → ∀ indexPath,
      cell indexPath = do return some (f (← subscript list indexPath.2))) :
    itemsShown (fun _ => .ok (itemCount records)) cell 0 = .ok (cellsOf (records.map (·.map f))) := by
  refine itemsShown_eq (by rw [itemCount_map]) fun item hitem => ?_
  rw [itemCount_map] at hitem
  cases records with
  | none => exact hnone rfl _
  | some list =>
    have hi : item < list.length := hitem
    rw [hsome list rfl, subscript_of_getElem? (List.getElem?_eq_getElem hi), ok_bind]
    simp [hi, pure, Except.pure]

theorem news_shown (records : Option (List HardvardMuseumObjectRecord)) :
    NewsViewModel.shown ⟨records, true⟩ = .ok (cellsOf (records.map (·.map NewsTableCellViewModel.mk))) := by
  refine single_shown records _ ?_ ?_
  · rintro rfl indexPath; rfl
  · rintro list rfl indexPath; rfl

theorem recordInformation_shown (object : Option HardvardMuseumObject) :
    RecordInfomationViewModel.shown ⟨object, true⟩ =
      .ok (cellsOf ((object.bind (·.records)).map (·.map HomeCollectionCellViewModel.mk))) := by
  refine single_shown (object.bind (·.records)) _ ?_ ?_
  · intro h indexPath
    simp only [RecordInfomationViewModel.createHardvardMuseumObjectRecord, h]
    rfl
  · intro list h indexPath
    simp only [RecordInfomationViewModel.createHardvardMuseumObjectRecord, h]

/-! ## The screens -/

/-- An API whose every page has one record. -/
def oneRecord : MuseumAPI where
  response _ := .ok ⟨some [], some (.http ⟨200⟩)⟩
  decodeObject _ := .ok ⟨none, some [⟨none, none, none⟩]⟩
  decodePerson _ := .error ⟨4864⟩
  decodeDetailedNews _ := .error ⟨4864⟩

/-- A load that succeeds after the screen of a record has disappeared, and one that fails after it has
appeared again: the collection shows the state before the first load. -/
example :
    ((run (RecordInformationViewController.objects (some 1)).step (.new ⟨none, false⟩ (.ok [none]))
      [.viewWillAppear, .viewDidAppear, .viewDidDisappear, .loadEnds oneRecord, .didSet, .viewWillAppear,
        .viewDidAppear, .loadEnds offline]).map fun s => (s.shown.toOption, s.value, s.loads, s.refreshes)) =
      some (some [none], ⟨some ⟨none, some [⟨none, none, none⟩]⟩, true⟩, 0, 0) := by
  decide

end ArtExhibition
