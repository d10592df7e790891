import ArtExhibition.Machine.Results
import ArtExhibition.Spec.Screen

/-!
# Index paths across reloads

Between a load and the reload that follows it, a view calls back with index paths of counts
that are no longer the view model's. `DataSource.Lawful` is what the proof needs of a view
model: reading the counts never traps, an index path within the counts just read is in
range, and an accessor traps exactly out of range.

`trapped_iff`: a lawful screen gets through a run without a trap exactly when its callbacks
between a load and the next reload are in range of the new model (`InNewModel`).
`never_out_of_range_iff` is this for the three screens; `failed_requests_trap` is a home screen
whose first load brings no result.
-/

namespace ArtExhibition

open Machine

/-! ## Reading a list of counts -/

variable {V L : Type} {d : DataSource V L}

/-- The counts are those of the sections, one each. -/
theorem readCounts_eq_ok {v : V} {counts : List ℕ} (h : d.readCounts v = .ok counts) :
    counts.length = d.numberOfSections v ∧
      ∀ i n, counts[i]? = some n → d.numberOfItemsInSection v i = .ok n := by
  obtain ⟨hlen, hget⟩ := List.forall₂_iff_get.1 (mapM_ok_iff.1 h)
  rw [List.length_range] at hlen
  refine ⟨hlen.symm, fun i n hn => ?_⟩
  obtain ⟨hi, rfl⟩ := List.getElem?_eq_some_iff.1 hn
  have hitem := hget i (by rw [List.length_range]; omega) hi
  simpa using hitem

/-- What the proof needs of a view model; `InRange` says that a callback's index path indexes
into the model that is there now. -/
structure DataSource.Lawful (d : DataSource V L) (InRange : V → ViewCallback → Prop) : Prop where
  launch : d.readCounts d.launch = .ok [1]
  items : ∀ v i, i < d.numberOfSections v → ∃ n, d.numberOfItemsInSection v i = .ok n
  inRange : ∀ v counts c, d.readCounts v = .ok counts → c.Within counts → InRange v c
  access : ∀ v c r, d.access v c = some r → ((∃ u, r = .ok u) ↔ InRange v c)

/-- The view's counts are those of the view model. -/
def DataSource.UpToDate (d : DataSource V L) (s : Screen V) : Prop :=
  d.readCounts s.viewModel = .ok s.counts

/-- The condition on a step: a callback between a load and the next reload is in range of the
new model. -/
def DataSource.InNewModel (d : DataSource V L) (InRange : V → ViewCallback → Prop) (s : Screen V) :
    ScreenEvent L → Prop
  | .callback callback => ¬ d.UpToDate s → InRange s.viewModel callback
  | _ => True

instance (InRange : V → ViewCallback → Prop) [∀ v c, Decidable (InRange v c)] (s : Screen V) :
    ∀ e : ScreenEvent L, Decidable (d.InNewModel InRange s e)
  | .callback callback => inferInstanceAs (Decidable
      (¬ d.readCounts s.viewModel = .ok s.counts → InRange s.viewModel callback))
  | .load _ | .reloadData => .isTrue trivial

/-- Reading the counts of a lawful view model never traps. -/
theorem readCounts_ok {InRange : V → ViewCallback → Prop} (hd : d.Lawful InRange) (v : V) :
    ∃ counts, d.readCounts v = .ok counts := by
  have hall : ∀ l : List ℕ, (∀ i ∈ l, ∃ n, d.numberOfItemsInSection v i = .ok n) →
      ∃ counts, l.mapM (d.numberOfItemsInSection v) = .ok counts := by
    intro l
    induction l with
    | nil => exact fun _ => ⟨[], rfl⟩
    | cons i l ih =>
      intro h
      obtain ⟨n, hn⟩ := h i List.mem_cons_self
      obtain ⟨counts, hcounts⟩ := ih fun j hj => h j (List.mem_cons_of_mem i hj)
      exact ⟨n :: counts, mapM_ok_iff.2 (.cons hn (mapM_ok_iff.1 hcounts))⟩
  exact hall _ fun i hi => hd.items v i (List.mem_range.1 hi)

/-- **One step traps exactly when it breaks the condition.** -/
theorem step_trapped_iff {InRange : V → ViewCallback → Prop} (hd : d.Lawful InRange) (s : Screen V)
    (e : ScreenEvent L) (s' : Screen V) (hs : d.step s e = some s') :
    s'.trapped = false ↔ s.trapped = false ∧ d.InNewModel InRange s e := by
  have hrun : s.trapped = false := by
    by_contra ht
    have htrue : s.trapped = true := by simpa using ht
    simp [DataSource.step, htrue] at hs
  simp only [DataSource.step, hrun, Bool.false_eq_true, if_false] at hs
  rw [hrun]
  cases e with
  | load load =>
    obtain rfl := Option.some.inj hs
    simp [DataSource.InNewModel]
  | reloadData =>
    -- a reload reads the counts of one and the same model, so it never traps
    obtain ⟨counts, hcounts⟩ := readCounts_ok hd s.viewModel
    rw [hcounts] at hs
    dsimp only at hs
    split at hs
    · cases hs
    · obtain rfl := Option.some.inj hs
      simp [DataSource.InNewModel]
    · rename_i heq
      cases heq
  | callback callback =>
    dsimp only at hs
    split at hs
    · rename_i hwithin
      -- in range of an up-to-date view model by the counts, else by the condition
      have hok : d.InNewModel InRange s (.callback callback) ↔ InRange s.viewModel callback := by
        constructor
        · intro h
          by_cases hup : d.UpToDate s
          · exact hd.inRange _ _ _ hup hwithin
          · exact h hup
        · exact fun h _ => h
      rw [hok]
      split at hs
      · cases hs
      · rename_i u hacc
        obtain rfl := Option.some.inj hs
        have hin := (hd.access _ _ _ hacc).1 ⟨u, rfl⟩
        simp [hrun, hin]
      · rename_i trap hacc
        obtain rfl := Option.some.inj hs
        have hout : ¬ InRange s.viewModel callback := by
          intro hin
          obtain ⟨u, hu⟩ := (hd.access _ _ _ hacc).2 hin
          cases hu
        simp [hout]
    · cases hs

/-- **A lawful screen traps exactly when a callback meets a model it is out of range of**,
between a load and the next reload. -/
theorem trapped_iff {InRange : V → ViewCallback → Prop} (hd : d.Lawful InRange)
    {es : List (ScreenEvent L)} {s : Screen V} (h : run d.step d.start es = some s) :
    s.trapped = false ↔ Along d.step (d.InNewModel InRange) d.start es := by
  have hiff := holds_iff_along (I := fun _ => True) (P := fun s : Screen V => s.trapped = false)
    (fun _ _ _ _ _ => trivial) (fun s e s' _ => step_trapped_iff hd s e s') es trivial h
  rw [hiff]
  exact and_iff_right rfl

/-! ## The three view models -/

theorem subscript_ok_iff {α : Type} (list : List α) (index : ℕ) :
    (∃ a, subscript list index = .ok a) ↔ index < list.length := by
  unfold subscript
  cases h : list[index]? with
  | none =>
    have hge := List.getElem?_eq_none_iff.1 h
    simp only [reduceCtorEq, exists_false, false_iff]
    omega
  | some a =>
    have hlt := (List.getElem?_eq_some_iff.1 h).1
    simp [hlt]

theorem outcome_ok_iff {α : Type} {result : Except Trap α} {r : Except Trap Unit}
    (h : outcome result = some r) : (∃ u, r = .ok u) ↔ ∃ a, result = .ok a := by
  obtain rfl := Option.some.inj h
  cases result <;> simp [Except.map]

/-- An accessor that goes on after a subscript traps where the subscript does. -/
theorem bind_ok_iff {α β : Type} {x : Except Trap α} (f : α → β) :
    (∃ b, (do let a ← x; return f a) = .ok b) ↔ ∃ a, x = .ok a := by
  cases x with
  | error trap => exact ⟨by rintro ⟨b, ⟨⟩⟩, by rintro ⟨a, ⟨⟩⟩⟩
  | ok a => exact ⟨fun _ => ⟨a, rfl⟩, fun _ => ⟨f a, rfl⟩⟩

/-- A home screen's index path indexes into the loaded model. -/
def HomeViewModel.InRange (v : HomeViewModel) (c : ViewCallback) : Prop :=
  v.didGetAllHardvardMuseumObjectModel → match c with
    | .numberOfItemsInSection section_ => section_ < v.hardvardMuseumObjectModel.length
    | .header indexPath => indexPath.1 < v.hardvardMuseumObjectModel.length
    | .record indexPath | .personID indexPath =>
      indexPath.1 < v.hardvardMuseumObjectModel.length ∧
        ∀ object ∈ v.hardvardMuseumObjectModel[indexPath.1]?, ∀ records ∈ object.bind (·.records),
          indexPath.2 < records.length

instance (v : HomeViewModel) : ∀ c : ViewCallback, Decidable (v.InRange c)
  | .numberOfItemsInSection section_ => inferInstanceAs (Decidable
      (v.didGetAllHardvardMuseumObjectModel → section_ < v.hardvardMuseumObjectModel.length))
  | .header indexPath => inferInstanceAs (Decidable
      (v.didGetAllHardvardMuseumObjectModel → indexPath.1 < v.hardvardMuseumObjectModel.length))
  | .record indexPath | .personID indexPath => inferInstanceAs (Decidable
      (v.didGetAllHardvardMuseumObjectModel → indexPath.1 < v.hardvardMuseumObjectModel.length ∧
        ∀ object ∈ v.hardvardMuseumObjectModel[indexPath.1]?, ∀ records ∈ object.bind (·.records),
          indexPath.2 < records.length))

/-- A news screen's index path indexes into the loaded records. -/
def NewsViewModel.InRange (v : NewsViewModel) : ViewCallback → Prop
  | .record indexPath => v.didGetAllHardvardMuseumObjectModel →
      ∀ records ∈ v.hardvardMuseumObjectRecords, indexPath.2 < records.length
  | _ => True

instance (v : NewsViewModel) : ∀ c : ViewCallback, Decidable (v.InRange c)
  | .record indexPath => inferInstanceAs (Decidable (v.didGetAllHardvardMuseumObjectModel →
      ∀ records ∈ v.hardvardMuseumObjectRecords, indexPath.2 < records.length))
  | .numberOfItemsInSection _ | .header _ | .personID _ => .isTrue trivial

/-- A record screen's index path indexes into the loaded records. -/
def RecordInfomationViewModel.InRange (v : RecordInfomationViewModel) : ViewCallback → Prop
  | .record indexPath => v.didGetObjectAccordingToPerson →
      ∀ records ∈ v.hardvardMuseumObjectOfPerson.bind (·.records), indexPath.2 < records.length
  | _ => True

instance (v : RecordInfomationViewModel) : ∀ c : ViewCallback, Decidable (v.InRange c)
  | .record indexPath => inferInstanceAs (Decidable (v.didGetObjectAccordingToPerson →
      ∀ records ∈ v.hardvardMuseumObjectOfPerson.bind (·.records), indexPath.2 < records.length))
  | .numberOfItemsInSection _ | .header _ | .personID _ => .isTrue trivial

theorem subscript_of_getElem? {α : Type} {list : List α} {index : ℕ} {a : α}
    (h : list[index]? = some a) : subscript list index = .ok a := by
  rw [subscript, h]

theorem home_record_ok_iff (v : HomeViewModel) (indexPath : IndexPath) :
    (∃ record, v.record indexPath = .ok record) ↔
      indexPath.1 < v.hardvardMuseumObjectModel.length ∧
        ∀ object ∈ v.hardvardMuseumObjectModel[indexPath.1]?, ∀ records ∈ object.bind (·.records),
          indexPath.2 < records.length := by
  by_cases hlt : indexPath.1 < v.hardvardMuseumObjectModel.length
  · obtain ⟨object, hobject⟩ : ∃ o, v.hardvardMuseumObjectModel[indexPath.1]? = some o :=
      ⟨_, List.getElem?_eq_getElem hlt⟩
    rw [hobject]
    simp only [hlt, true_and, Option.mem_def, Option.some.injEq, forall_eq']
    unfold HomeViewModel.record
    rw [subscript_of_getElem? hobject]
    dsimp only [bind, Except.bind]
    cases object.bind (·.records) with
    | none => exact iff_of_true ⟨none, rfl⟩ nofun
    | some records =>
      simp only [Option.some.injEq, forall_eq']
      rw [← subscript_ok_iff]
      exact bind_ok_iff some
  · have hnone : ¬ ∃ object, subscript v.hardvardMuseumObjectModel indexPath.1 = .ok object := by
      rwa [subscript_ok_iff]
    refine iff_of_false ?_ fun h => hlt h.1
    unfold HomeViewModel.record
    rintro ⟨record, hrecord⟩
    cases hsub : subscript v.hardvardMuseumObjectModel indexPath.1 with
    | ok object => exact hnone ⟨object, hsub⟩
    | error trap =>
      rw [hsub] at hrecord
      cases hrecord

/-- The accessors guard on the flag of the first assignment. -/
theorem guard_ok_iff {α : Type} {flag : Bool} {x : Except Trap α} {a : α} :
    (∃ b, (if flag then x else return a) = .ok b) ↔ (flag → ∃ b, x = .ok b) := by
  cases flag with
  | true => simp
  | false => exact iff_of_true ⟨a, rfl⟩ nofun

theorem home_numberOfItemsInSection_eq {v : HomeViewModel} {section_ n : ℕ}
    (hflag : v.didGetAllHardvardMuseumObjectModel)
    (h : v.numberOfItemsInSection section_ = .ok n) :
    ∀ object ∈ v.hardvardMuseumObjectModel[section_]?, ∀ records ∈ object.bind (·.records),
      records.length = n := by
  intro object hobject records hrecords
  rw [HomeViewModel.numberOfItemsInSection, if_pos hflag, subscript_of_getElem? hobject] at h
  obtain rfl : ((object.bind (·.records)).map List.length).getD 1 = n := Except.ok.inj h
  rw [Option.mem_def.1 hrecords]
  rfl

theorem home_numberOfItemsInSection_ok_iff (v : HomeViewModel) (section_ : ℕ) :
    (∃ n, v.numberOfItemsInSection section_ = .ok n) ↔
      (v.didGetAllHardvardMuseumObjectModel → section_ < v.hardvardMuseumObjectModel.length) := by
  refine guard_ok_iff.trans (imp_congr_right fun _ => ?_)
  rw [bind_ok_iff, subscript_ok_iff]

theorem home_lawful : homeDataSource.Lawful HomeViewModel.InRange where
  launch := rfl
  items v i hi := by
    refine (home_numberOfItemsInSection_ok_iff v i).2 fun hflag => ?_
    have hsections : homeDataSource.numberOfSections v = v.hardvardMuseumObjectModel.length :=
      if_pos hflag
    omega
  inRange v counts c hcounts hwithin hflag := by
    -- the counts are of this model: as many as it has sections, each the length of its records
    obtain ⟨hlen, hitem⟩ := readCounts_eq_ok hcounts
    have hsections : homeDataSource.numberOfSections v = v.hardvardMuseumObjectModel.length :=
      if_pos hflag
    rw [hsections] at hlen
    cases c with
    | numberOfItemsInSection section_ | header indexPath => exact hlen ▸ hwithin
    | record indexPath | personID indexPath =>
      obtain ⟨n, hn, hlt⟩ := hwithin
      obtain ⟨hsection, -⟩ := List.getElem?_eq_some_iff.1 hn
      refine ⟨hlen ▸ hsection, fun object hobject records hrecords => ?_⟩
      rw [home_numberOfItemsInSection_eq hflag (hitem _ _ hn) object hobject records hrecords]
      exact hlt
  access v c r hr := by
    cases c with
    | numberOfItemsInSection section_ =>
      rw [outcome_ok_iff hr, home_numberOfItemsInSection_ok_iff]
      rfl
    | header indexPath =>
      rw [outcome_ok_iff hr]
      refine guard_ok_iff.trans (imp_congr_right fun _ => ?_)
      rw [bind_ok_iff, subscript_ok_iff]
    | record indexPath | personID indexPath =>
      rw [outcome_ok_iff hr]
      refine guard_ok_iff.trans (imp_congr_right fun _ => ?_)
      rw [bind_ok_iff, home_record_ok_iff]

/-! ### One section of optional records -/

theorem news_record_ok_iff (v : NewsViewModel) (indexPath : IndexPath) :
    (∃ model, v.createHardvardMuseumObjectRecord indexPath = .ok model) ↔
      v.InRange (.record indexPath) := by
  obtain ⟨list, flag⟩ := v
  cases flag with
  | false => exact iff_of_true ⟨none, rfl⟩ nofun
  | true =>
    cases list with
    | none => exact iff_of_true ⟨none, rfl⟩ fun _ _ h => nomatch h
    | some records =>
      have hsub := subscript_ok_iff records indexPath.2
      exact (bind_ok_iff _).trans (hsub.trans (by simp [NewsViewModel.InRange]))

theorem recordInformation_record_ok_iff (v : RecordInfomationViewModel) (indexPath : IndexPath) :
    (∃ model, v.createHardvardMuseumObjectRecord indexPath = .ok model) ↔
      v.InRange (.record indexPath) := by
  obtain ⟨object, flag⟩ := v
  unfold RecordInfomationViewModel.createHardvardMuseumObjectRecord RecordInfomationViewModel.InRange
  dsimp only
  cases flag with
  | false => exact iff_of_true ⟨none, rfl⟩ nofun
  | true =>
    cases object.bind (·.records) with
    | none => exact iff_of_true ⟨none, rfl⟩ fun _ _ h => nomatch h
    | some records =>
      have hsub := subscript_ok_iff records indexPath.2
      exact (bind_ok_iff _).trans (hsub.trans (by simp))

/-- The count of the one section is the length of its records. -/
theorem optional_records_count {α : Type} {flag : Bool} {list : Option (List α)} {n : ℕ}
    (hflag : flag) (h : (if flag then return (list.map List.length).getD 1 else return 1 :
      Except Trap ℕ) = .ok n) : ∀ records ∈ list, records.length = n := by
  rintro records ⟨⟩
  rw [if_pos hflag] at h
  exact Except.ok.inj h

/-- A screen with one section, of the records there are, traps nowhere but at a record that is
out of their range. -/
theorem lawful_of_optional_records {α R : Type} {InRange : V → ViewCallback → Prop} (flag : V → Bool)
    (list : V → Option (List α)) (createRecord : V → IndexPath → Except Trap R)
    (launch : d.readCounts d.launch = .ok [1])
    (items : ∀ v i, d.numberOfItemsInSection v i =
      if flag v then return ((list v).map List.length).getD 1 else return 1)
    (access : ∀ v indexPath section_,
      d.access v (.record indexPath) = outcome (createRecord v indexPath) ∧
        d.access v (.numberOfItemsInSection section_) = outcome (d.numberOfItemsInSection v section_) ∧
        d.access v (.header indexPath) = none ∧ d.access v (.personID indexPath) = none)
    (record : ∀ v indexPath, (flag v → ∀ records ∈ list v, indexPath.2 < records.length) →
      InRange v (.record indexPath))
    (record_ok : ∀ v indexPath, (∃ model, createRecord v indexPath = .ok model) ↔
      InRange v (.record indexPath))
    (others : ∀ v indexPath section_, InRange v (.numberOfItemsInSection section_) ∧
      InRange v (.header indexPath) ∧ InRange v (.personID indexPath)) : d.Lawful InRange where
  launch := launch
  items v i _ := by
    rw [items]
    exact guard_ok_iff.2 fun _ => ⟨_, rfl⟩
  inRange v counts c hcounts hwithin := by
    cases c with
    | numberOfItemsInSection section_ => exact (others v (0, 0) section_).1
    | header indexPath => exact (others v indexPath 0).2.1
    | personID indexPath => exact (others v indexPath 0).2.2
    | record indexPath =>
      refine record v indexPath fun hflag records hrecords => ?_
      obtain ⟨n, hn, hlt⟩ := hwithin
      have hitem := (readCounts_eq_ok hcounts).2 _ _ hn
      rw [items] at hitem
      rw [optional_records_count hflag hitem records hrecords]
      exact hlt
  access v c r hr := by
    cases c with
    | numberOfItemsInSection section_ =>
      obtain ⟨-, hcount, -⟩ := access v (0, 0) section_
      rw [outcome_ok_iff (hcount ▸ hr), items]
      exact iff_of_true (guard_ok_iff.2 fun _ => ⟨_, rfl⟩) (others v (0, 0) section_).1
    | record indexPath =>
      rw [outcome_ok_iff ((access v indexPath 0).1 ▸ hr)]
      exact record_ok v indexPath
    | header indexPath =>
      rw [(access v indexPath 0).2.2.1] at hr
      cases hr
    | personID indexPath =>
      rw [(access v indexPath 0).2.2.2] at hr
      cases hr

theorem news_lawful : newsDataSource.Lawful NewsViewModel.InRange :=
  lawful_of_optional_records (·.didGetAllHardvardMuseumObjectModel) (·.hardvardMuseumObjectRecords)
    NewsViewModel.createHardvardMuseumObjectRecord rfl (fun _ _ => rfl)
    (fun _ _ _ => ⟨rfl, rfl, rfl, rfl⟩) (fun _ _ h => h) news_record_ok_iff
    (fun _ _ _ => ⟨trivial, trivial, trivial⟩)

theorem recordInformation_lawful :
    recordInformationDataSource.Lawful RecordInfomationViewModel.InRange :=
  lawful_of_optional_records (·.didGetObjectAccordingToPerson)
    (·.hardvardMuseumObjectOfPerson.bind (·.records))
    RecordInfomationViewModel.createHardvardMuseumObjectRecord rfl (fun _ _ => rfl)
    (fun _ _ _ => ⟨rfl, rfl, rfl, rfl⟩) (fun _ _ h => h) recordInformation_record_ok_iff
    (fun _ _ _ => ⟨trivial, trivial, trivial⟩)

/-- A callback's index path indexes into what its screen's view model has now. -/
def MuseumScreen.InRange : ∀ screen : MuseumScreen, screen.ViewModel → ViewCallback → Prop
  | .home => HomeViewModel.InRange
  | .news => NewsViewModel.InRange
  | .recordInformation => RecordInfomationViewModel.InRange

theorem museumScreen_lawful : ∀ screen : MuseumScreen, screen.dataSource.Lawful screen.InRange
  | .home => home_lawful
  | .news => news_lawful
  | .recordInformation => recordInformation_lawful

/-- **Exactly when no accessor of the three screens indexes out of range.** -/
theorem never_out_of_range_iff (screen : MuseumScreen) {es : List (ScreenEvent screen.Load)}
    {s : Screen screen.ViewModel} (h : run screen.dataSource.step screen.dataSource.start es = some s) :
    s.trapped = false ↔ Along screen.dataSource.step
      (screen.dataSource.InNewModel screen.InRange) screen.dataSource.start es :=
  trapped_iff (museumScreen_lawful screen) h

/-- A first load with these results, and the header of the placeholder's section before the
`reloadData` block has run. -/
def firstLoadRun (results : List (Option HardvardMuseumObject)) :
    List (ScreenEvent (List (Option HardvardMuseumObject))) :=
  [.load results, .callback (.header (0, 0))]

theorem never_out_of_range_one_result :
    ∃ s, run homeDataSource.step homeDataSource.start
        (firstLoadRun [none, some ⟨none, some []⟩, none]) = some s ∧ s.trapped = false := by
  obtain ⟨s, h⟩ : ∃ s, run homeDataSource.step homeDataSource.start
    (firstLoadRun [none, some ⟨none, some []⟩, none]) = some s := ⟨_, rfl⟩
  have hok : Along homeDataSource.step (homeDataSource.InNewModel HomeViewModel.InRange)
    homeDataSource.start (firstLoadRun [none, some ⟨none, some []⟩, none]) := by decide
  exact ⟨s, h, (never_out_of_range_iff .home h).2 hok⟩

/-- **A load whose three requests failed traps the header of the placeholder's section.** -/
theorem failed_requests_trap :
    ∃ s, run homeDataSource.step homeDataSource.start (firstLoadRun [none, none, none]) = some s ∧
      s.trapped = true :=
  ⟨_, rfl, rfl⟩

end ArtExhibition
