import Mathlib.Data.List.ReduceOption
import ArtExhibition.Machine.Results
import ArtExhibition.Proof.Screen

/-!
# Index paths enumerate the records

A view model's data are sections of optional records: one item for each record, and one item
without record where there are none. `EnumeratesRecords` says what the index paths within its
counts then bring, and holds whenever counts and accessor follow that rule
(`enumeratesRecords_of_counts`); the three view models do (`index_paths_enumerate`).
-/

namespace ArtExhibition

open Machine

variable {R : Type}

/-- The index paths `(s, i)` within the counts, in order. -/
def indexPaths (numberOfSections : ℕ) (numberOfItemsInSection : ℕ → Except Trap ℕ) :
    Except Trap (List IndexPath) := do
  let sections ← (List.range numberOfSections).mapM fun section_ => do
    let items ← numberOfItemsInSection section_
    return (List.range items).map (section_, ·)
  return sections.flatten

/-- Over all index paths the accessor does not trap and brings the records of `sections` in
order, each once; a section without records has one index path, which brings none. -/
def EnumeratesRecords (sections : List (Option (List R))) (numberOfSections : ℕ)
    (numberOfItemsInSection : ℕ → Except Trap ℕ) (record : IndexPath → Except Trap (Option R)) :
    Prop :=
  ∃ paths, indexPaths numberOfSections numberOfItemsInSection = .ok paths ∧
    ∃ records, paths.mapM record = .ok records ∧
      records.reduceOption = sections.reduceOption.flatten ∧
      ∀ section_, sections[section_]? = some none →
        paths.filter (·.1 = section_) = [(section_, 0)] ∧ record (section_, 0) = .ok none

/-! ### Sections of optional records -/

/-- `records?.count ?? 1`. -/
def itemCount (records : Option (List R)) : ℕ := (records.map List.length).getD 1

/-- The item of an index path. -/
def recordAt (sections : List (Option (List R))) (indexPath : IndexPath) : Option R :=
  sections[indexPath.1]?.join.bind (·[indexPath.2]?)

theorem indexPaths_eq {sections : List (Option (List R))} {count : ℕ → Except Trap ℕ}
    (h : ∀ section_ (hs : section_ < sections.length),
      count section_ = .ok (itemCount sections[section_])) :
    indexPaths sections.length count = .ok ((List.range sections.length).flatMap fun section_ =>
      (List.range (itemCount sections[section_]?.join)).map (section_, ·)) := by
  have each : (List.range sections.length).mapM (fun section_ => do
      let items ← count section_
      return (List.range items).map (section_, ·)) = .ok ((List.range sections.length).map
        fun section_ => (List.range (itemCount sections[section_]?.join)).map (section_, ·)) := by
    apply mapM_ok
    intro section_ hs
    have hs : section_ < sections.length := List.mem_range.mp hs
    rw [h section_ hs, List.getElem?_eq_getElem hs]
    rfl
  rw [indexPaths, each, List.flatMap_def]
  rfl

theorem map_getElem?_range {α : Type} (l : List α) :
    (List.range l.length).map (l[·]?) = l.map some := by
  apply List.ext_getElem <;> simp

/-- What the items of one section bring. -/
theorem reduceOption_items (records : Option (List R)) :
    ((List.range (itemCount records)).map fun item => records.bind (·[item]?)).reduceOption =
      records.getD [] := by
  cases records with
  | none => rfl
  | some records =>
    change ((List.range records.length).map (records[·]?)).reduceOption = records
    rw [map_getElem?_range, List.reduceOption, List.filterMap_map]
    exact List.filterMap_some

/-- The sections without records add nothing. -/
theorem flatten_reduceOption (sections : List (Option (List R))) :
    ((List.range sections.length).flatMap fun section_ => sections[section_]?.join.getD []) =
      sections.reduceOption.flatten := by
  have : ((List.range sections.length).flatMap fun section_ => sections[section_]?.join.getD []) =
      ((List.range sections.length).map (sections[·]?)).flatMap (·.join.getD []) := by
    rw [List.flatMap_map]
  rw [this, map_getElem?_range, List.flatMap_map]
  clear this
  induction sections with
  | nil => rfl
  | cons records sections ih =>
    rw [List.flatMap_cons, ih]
    cases records <;> rfl

/-- The index paths of one section among all. -/
theorem filter_flatMap_range {n section_ : ℕ} (hs : section_ < n) (items : ℕ → List ℕ) :
    ((List.range n).flatMap fun s => (items s).map fun item => (s, item)).filter (·.1 = section_) =
      (items section_).map fun item => (section_, item) := by
  have other : ∀ s, s ≠ section_ →
      ((items s).map fun item => (s, item)).filter (·.1 = section_) = [] := by
    intro s hs
    rw [List.filter_eq_nil_iff]
    rintro _ hm
    obtain ⟨item, -, rfl⟩ := List.mem_map.mp hm
    simpa using hs
  have own : ((items section_).map fun item => (section_, item)).filter (·.1 = section_) =
      (items section_).map fun item => (section_, item) := by
    rw [List.filter_eq_self]
    rintro _ hm
    obtain ⟨item, -, rfl⟩ := List.mem_map.mp hm
    simp
  rw [List.filter_flatMap]
  induction n with
  | zero => exact absurd hs (Nat.not_lt_zero _)
  | succ n ih =>
    rw [List.range_succ, List.flatMap_append, List.flatMap_singleton]
    rcases Nat.lt_succ_iff_lt_or_eq.mp hs with hlt | rfl
    · rw [ih hlt, other n (by omega), List.append_nil]
    · rw [own, List.flatMap_eq_nil_iff.mpr, List.nil_append]
      exact fun s hm => other s (Nat.ne_of_lt (List.mem_range.mp hm))

/-- **Counts and accessor that follow the rule enumerate the records.** -/
theorem enumeratesRecords_of_counts {sections : List (Option (List R))}
    {count : ℕ → Except Trap ℕ} {record : IndexPath → Except Trap (Option R)}
    (hcount : ∀ section_ (hs : section_ < sections.length),
      count section_ = .ok (itemCount sections[section_]))
    (hrecord : ∀ indexPath : IndexPath, indexPath.1 < sections.length →
      indexPath.2 < itemCount sections[indexPath.1]?.join →
      record indexPath = .ok (recordAt sections indexPath)) :
    EnumeratesRecords sections sections.length count record := by
  refine ⟨_, indexPaths_eq hcount, _, mapM_ok (g := recordAt sections) ?_, ?_, ?_⟩
  · intro indexPath hp
    obtain ⟨section_, hs, hp⟩ := List.mem_flatMap.mp hp
    obtain ⟨item, hi, rfl⟩ := List.mem_map.mp hp
    exact hrecord _ (List.mem_range.mp hs) (List.mem_range.mp hi)
  · rw [List.map_flatMap, ← flatten_reduceOption, List.reduceOption, List.filterMap_flatMap]
    congr 1
    funext section_
    rw [List.map_map]
    exact reduceOption_items sections[section_]?.join
  · intro section_ empty
    have hs : section_ < sections.length := (List.getElem?_eq_some_iff.mp empty).1
    rw [filter_flatMap_range hs, empty]
    refine ⟨rfl, ?_⟩
    rw [hrecord (section_, 0) hs (by rw [empty]; exact Nat.one_pos), recordAt, empty]
    rfl

/-! ### The three view models -/

/-- The sections of a loaded home screen, as its cells. -/
def homeSections (model : List (Option HardvardMuseumObject)) :
    List (Option (List HomeCollectionCellViewModel)) :=
  model.map fun object => (object.bind (·.records)).map (·.map HomeCollectionCellViewModel.mk)

theorem itemCount_map {S : Type} (records : Option (List R)) (f : R → S) :
    itemCount (records.map (·.map f)) = itemCount records := by
  cases records with
  | none => rfl
  | some records => exact List.length_map f

theorem home_counts (model : List (Option HardvardMuseumObject)) :
    ∀ section_ (hs : section_ < (homeSections model).length),
      HomeViewModel.numberOfItemsInSection ⟨model, true⟩ section_ =
        .ok (itemCount (homeSections model)[section_]) := by
  intro section_ hs
  have hs : section_ < model.length := by simpa [homeSections] using hs
  simp only [HomeViewModel.numberOfItemsInSection, if_true, homeSections, List.getElem_map,
    itemCount_map, subscript_of_getElem? (List.getElem?_eq_getElem hs)]
  rfl

/-- `[section]?.records?[item]` within the counts. -/
theorem home_record_eq {model : List (Option HardvardMuseumObject)} {indexPath : IndexPath}
    (hs : indexPath.1 < (homeSections model).length)
    (hi : indexPath.2 < itemCount (homeSections model)[indexPath.1]?.join) :
    ∃ record, HomeViewModel.record ⟨model, true⟩ indexPath = .ok record ∧
      record.map HomeCollectionCellViewModel.mk = recordAt (homeSections model) indexPath := by
  have hs : indexPath.1 < model.length := by simpa [homeSections] using hs
  have at_section : (homeSections model)[indexPath.1]?.join =
      (model[indexPath.1].bind (·.records)).map (·.map HomeCollectionCellViewModel.mk) := by
    rw [homeSections, List.getElem?_map, List.getElem?_eq_getElem hs]
    rfl
  rw [at_section, itemCount_map] at hi
  rw [recordAt, at_section, HomeViewModel.record, subscript_of_getElem? (List.getElem?_eq_getElem hs),
    ok_bind]
  cases h : model[indexPath.1].bind (·.records) with
  | none => exact ⟨none, rfl, rfl⟩
  | some records =>
    rw [h] at hi
    have hi : indexPath.2 < records.length := hi
    refine ⟨some records[indexPath.2], ?_, ?_⟩
    · dsimp only
      rw [subscript_of_getElem? (List.getElem?_eq_getElem hi), ok_bind]
      rfl
    · simp [hi]

theorem home_enumeratesRecords (model : List (Option HardvardMuseumObject)) :
    EnumeratesRecords (homeSections model) (homeSections model).length
      (HomeViewModel.numberOfItemsInSection ⟨model, true⟩)
      (HomeViewModel.createHardvardMuseumObjectRecord ⟨model, true⟩) := by
  apply enumeratesRecords_of_counts (home_counts model)
  intro indexPath hs hi
  obtain ⟨record, hr, cell⟩ := home_record_eq hs hi
  rw [HomeViewModel.createHardvardMuseumObjectRecord, if_pos rfl, hr, ok_bind, cell]
  rfl

/-- Within the counts the header and the person do not trap either. -/
theorem home_accessors_ok {model : List (Option HardvardMuseumObject)} {paths : List IndexPath}
    (h : indexPaths (homeSections model).length
      (HomeViewModel.numberOfItemsInSection ⟨model, true⟩) = .ok paths) :
    ∀ indexPath ∈ paths,
      (∃ person, HomeViewModel.createPersonID ⟨model, true⟩ indexPath = .ok person) ∧
      ∃ header, HomeViewModel.createHomeHeaderCollectionViewModel ⟨model, true⟩ indexPath =
        .ok header := by
  intro indexPath hp
  rw [indexPaths_eq (home_counts model), Except.ok.injEq] at h
  subst h
  obtain ⟨section_, hs, hp⟩ := List.mem_flatMap.mp hp
  obtain ⟨item, hi, rfl⟩ := List.mem_map.mp hp
  obtain ⟨record, hr, -⟩ := @home_record_eq model (section_, item) (List.mem_range.mp hs)
    (List.mem_range.mp hi)
  have hs : section_ < model.length := by simpa [homeSections] using hs
  constructor
  · rw [HomeViewModel.createPersonID, if_pos rfl, hr]
    exact ⟨_, rfl⟩
  · rw [HomeViewModel.createHomeHeaderCollectionViewModel, if_pos rfl,
      subscript_of_getElem? (List.getElem?_eq_getElem hs)]
    exact ⟨_, rfl⟩

/-- One section of optional records, as `NewsViewModel` and `RecordInfomationViewModel` have. -/
theorem enumeratesRecords_of_single {S : Type} (records : Option (List R)) (f : R → S)
    {record : IndexPath → Except Trap (Option S)}
    (hnone : records = none → ∀ indexPath, record indexPath = .ok none)
    (hsome : ∀ list, records = some list → ∀ indexPath,
      record indexPath = do return some (f (← subscript list indexPath.2))) :
    EnumeratesRecords [records.map (·.map f)] 1 (fun _ => .ok (itemCount records)) record := by
  apply @enumeratesRecords_of_counts _ [records.map (·.map f)]
  · intro section_ hs
    have : section_ = 0 := by simpa using hs
    subst this
    rw [List.getElem_singleton, itemCount_map]
  · rintro ⟨section_, item⟩ hs hi
    have : section_ = 0 := by simpa using hs
    subst this
    change item < itemCount (records.map (·.map f)) at hi
    rw [itemCount_map] at hi
    cases records with
    | none => rw [hnone rfl]; rfl
    | some list =>
      have hi : item < list.length := hi
      rw [hsome list rfl, subscript_of_getElem? (List.getElem?_eq_getElem hi)]
      simp [recordAt, hi, pure, Except.pure, bind, Except.bind]

/-- **Index paths enumerate the records.** In every loaded state of the three view models the
index paths within the counts bring exactly the records, in order and each once, with one
index path for a section without records; the home screen's other accessors do not trap there.
Before a load there is one index path, without record. -/
theorem index_paths_enumerate :
    (∀ model : List (Option HardvardMuseumObject),
      let v : HomeViewModel := ⟨model, true⟩
      EnumeratesRecords
        (model.map fun object => (object.bind (·.records)).map (·.map HomeCollectionCellViewModel.mk))
        v.numberOfSections v.numberOfItemsInSection v.createHardvardMuseumObjectRecord ∧
      ∀ paths, indexPaths v.numberOfSections v.numberOfItemsInSection = .ok paths →
        ∀ indexPath ∈ paths, (∃ person, v.createPersonID indexPath = .ok person) ∧
          ∃ header, v.createHomeHeaderCollectionViewModel indexPath = .ok header) ∧
    (∀ records : Option (List HardvardMuseumObjectRecord),
      let v : NewsViewModel := ⟨records, true⟩
      EnumeratesRecords [records.map (·.map NewsTableCellViewModel.mk)] 1 v.numberOfItemsInSection
        v.createHardvardMuseumObjectRecord) ∧
    (∀ object : Option HardvardMuseumObject,
      let v : RecordInfomationViewModel := ⟨object, true⟩
      EnumeratesRecords [(object.bind (·.records)).map (·.map HomeCollectionCellViewModel.mk)] 1
        v.numberOfItemsInSection v.createHardvardMuseumObjectRecord) ∧
    (∀ v : HomeViewModel, ¬ v.didGetAllHardvardMuseumObjectModel →
      indexPaths v.numberOfSections v.numberOfItemsInSection = .ok [(0, 0)] ∧
        v.createHardvardMuseumObjectRecord (0, 0) = .ok none ∧
        v.createPersonID (0, 0) = .ok none ∧
        v.createHomeHeaderCollectionViewModel (0, 0) = .ok none) ∧
    (∀ v : NewsViewModel, ¬ v.didGetAllHardvardMuseumObjectModel →
      indexPaths 1 v.numberOfItemsInSection = .ok [(0, 0)] ∧
        v.createHardvardMuseumObjectRecord (0, 0) = .ok none) ∧
    ∀ v : RecordInfomationViewModel, ¬ v.didGetObjectAccordingToPerson →
      indexPaths 1 v.numberOfItemsInSection = .ok [(0, 0)] ∧
        v.createHardvardMuseumObjectRecord (0, 0) = .ok none := by
  refine ⟨fun model => ?_, fun records => ?_, fun object => ?_, ?_, ?_, ?_⟩
  · have sections : HomeViewModel.numberOfSections ⟨model, true⟩ = (homeSections model).length :=
      (List.length_map _).symm
    dsimp only
    rw [sections]
    exact ⟨home_enumeratesRecords model, fun _ => home_accessors_ok⟩
  · apply enumeratesRecords_of_single records
    · rintro rfl indexPath; rfl
    · rintro list rfl indexPath; rfl
  · apply enumeratesRecords_of_single (object.bind (·.records))
    · intro h indexPath
      simp only [RecordInfomationViewModel.createHardvardMuseumObjectRecord, h]
      rfl
    · intro list h indexPath
      simp only [RecordInfomationViewModel.createHardvardMuseumObjectRecord, h]
  · rintro ⟨model, _ | _⟩ unloaded
    · exact ⟨rfl, rfl, rfl, rfl⟩
    · exact absurd rfl unloaded
  · rintro ⟨records, _ | _⟩ unloaded
    · exact ⟨rfl, rfl⟩
    · exact absurd rfl unloaded
  · rintro ⟨object, _ | _⟩ unloaded
    · exact ⟨rfl, rfl⟩
    · exact absurd rfl unloaded

end ArtExhibition
