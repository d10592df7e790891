import ArtExhibition.Spec.Loads
import ArtExhibition.Proof.Screen

/-!
# Reloads in which every request fails

A request fails in three ways: the router throws, the status is none of success, the body does not
decode (`RequestFails`). The first ends a `do` before its assignment, the other two bring nil, which
is assigned; in the groups of the home and news view models all three end as nothing collected.

`failed_reload_iff`: such a reload leaves the flags and all that the accessors serve as they were
exactly when there was nothing to lose, or the assignment was not reached (`NothingToLose`).
`home_reload_loses` is a home screen with one section.
-/

namespace ArtExhibition

open Wire Networking

/-! ## Requests that fail -/

section Requests

variable {D : Type} {decode : Bytes → Except NSError D} {routerResponse : Except NSError RouterResponse}

/-- The ways in which a request fails: the router throws, the status is none of success, or the
body does not decode. -/
inductive RequestFails (decode : Bytes → Except NSError D) : Except NSError RouterResponse → Prop
  | thrown (error : NSError) : RequestFails decode (.error error)
  | status (data : Option Bytes) (response : HTTPURLResponse) (h : ¬ response.IsSuccess) :
    RequestFails decode (.ok ⟨data, some (.http response)⟩)
  | undecodable (data : Bytes) (response : HTTPURLResponse) (h : response.IsSuccess) (error : NSError)
    (hdecode : decode data = .error error) : RequestFails decode (.ok ⟨some data, some (.http response)⟩)

theorem handleNetworkResponse_success_iff (response : HTTPURLResponse) :
    handleNetworkResponse response = .success ↔ response.IsSuccess := by
  unfold handleNetworkResponse
  split
  · simpa
  · split_ifs <;> simpa

/-- **A request that fails brings no model.** The call throws exactly what the router throws. -/
theorem callAndParseAPI_of_fails (h : RequestFails decode routerResponse) :
    callAndParseAPI decode routerResponse = routerResponse.map fun _ => none := by
  cases h with
  | thrown error => rfl
  | status data response h =>
    have hfailure := mt (handleNetworkResponse_success_iff response).1 h
    refine congrArg Except.ok ?_
    dsimp only [Option.bind_some, URLResponse.asHTTP]
    split
    · rename_i hsuccess; exact absurd hsuccess hfailure
    · rfl
  | undecodable data response h error hdecode =>
    have hsuccess := (handleNetworkResponse_success_iff response).2 h
    refine congrArg Except.ok ?_
    simp [URLResponse.asHTTP, hsuccess, hdecode, Except.toOption]

theorem nilOnError_of_fails (h : RequestFails decode routerResponse) :
    nilOnError (callAndParseAPI decode routerResponse) = none := by
  rw [callAndParseAPI_of_fails h]
  cases routerResponse <;> rfl

end Requests

/-! ## What the accessors serve -/

structure HomeViewModel.Same (v w : HomeViewModel) : Prop where
  didGetAllHardvardMuseumObjectModel :
    v.didGetAllHardvardMuseumObjectModel = w.didGetAllHardvardMuseumObjectModel
  numberOfSections : v.numberOfSections = w.numberOfSections
  header : ∀ i, v.createHomeHeaderCollectionViewModel i = w.createHomeHeaderCollectionViewModel i
  numberOfItemsInSection : ∀ i, v.numberOfItemsInSection i = w.numberOfItemsInSection i
  record : ∀ i, v.createHardvardMuseumObjectRecord i = w.createHardvardMuseumObjectRecord i
  personID : ∀ i, v.createPersonID i = w.createPersonID i

structure NewsViewModel.Same (v w : NewsViewModel) : Prop where
  didGetAllHardvardMuseumObjectModel :
    v.didGetAllHardvardMuseumObjectModel = w.didGetAllHardvardMuseumObjectModel
  numberOfItemsInSection : ∀ i, v.numberOfItemsInSection i = w.numberOfItemsInSection i
  record : ∀ i, v.createHardvardMuseumObjectRecord i = w.createHardvardMuseumObjectRecord i

structure RecordInformation.Same (v w : RecordInformation) : Prop where
  didGetAllHardvardPersonalInformation :
    v.didGetAllHardvardPersonalInformation = w.didGetAllHardvardPersonalInformation
  didGetObjectAccordingToPerson : v.didGetObjectAccordingToPerson = w.didGetObjectAccordingToPerson
  image : v.createImageAccordingToGender = w.createImageAccordingToGender
  names : v.createNames = w.createNames
  numberOfItemsInSection : ∀ i, v.numberOfItemsInSection i = w.numberOfItemsInSection i
  record : ∀ i, v.createHardvardMuseumObjectRecord i = w.createHardvardMuseumObjectRecord i

structure DetailedNewsViewModel.Same (v w : DetailedNewsViewModel) : Prop where
  detailedInformationOfObject : v.detailedInformationOfObject = w.detailedInformationOfObject

/-! ## Lists of records -/

section Records

variable {C : Type} {cell : HardvardMuseumObjectRecord → C}
  {records records' : Option (List HardvardMuseumObjectRecord)}

/-- What an accessor gives for the record at `item`, in a cell made by `cell`. -/
def servedAt (cell : HardvardMuseumObjectRecord → C) (records : Option (List HardvardMuseumObjectRecord))
    (item : ℕ) : Except Trap (Option C) :=
  match records with
  | some records => do return some (cell (← subscript records item))
  | none => return none

theorem servedAt_some_of_lt {list : List HardvardMuseumObjectRecord} {i : ℕ} (hi : i < list.length) :
    servedAt cell (some list) i = .ok (some (cell list[i])) := by
  dsimp only [servedAt]
  rw [subscript_of_getElem? (List.getElem?_eq_getElem hi)]
  rfl

/-- A list of one record has the count of no list, but a record in its place. -/
theorem servedAt_ne_none {list : List HardvardMuseumObjectRecord} (h : list.length = 1) :
    servedAt cell (some list) 0 ≠ servedAt cell none 0 := by
  rw [servedAt_some_of_lt (by omega)]
  nofun

/-- **The count and the cells tell the records.** -/
theorem served_iff (hcell : Function.Injective cell) :
    ((records.map List.length).getD 1 = (records'.map List.length).getD 1 ∧
      ∀ i, servedAt cell records i = servedAt cell records' i) ↔ records = records' := by
  refine ⟨fun ⟨hcount, hcells⟩ => ?_, fun h => h ▸ ⟨rfl, fun _ => rfl⟩⟩
  cases records with
  | none =>
    cases records' with
    | none => rfl
    | some list => exact absurd (hcells 0).symm (servedAt_ne_none hcount.symm)
  | some list =>
    cases records' with
    | none => exact absurd (hcells 0) (servedAt_ne_none hcount)
    | some list' =>
      have hlength : list.length = list'.length := by simpa using hcount
      refine congrArg some (List.ext_getElem hlength fun i hi hi' => hcell ?_)
      have hserved := hcells i
      rw [servedAt_some_of_lt hi, servedAt_some_of_lt hi'] at hserved
      exact Option.some.inj (Except.ok.inj hserved)

end Records

/-! ## Each view model against one that has nothing -/

theorem HomeViewModel.same_nil_iff {v : HomeViewModel} :
    HomeViewModel.Same ⟨[], true⟩ v ↔
      v.didGetAllHardvardMuseumObjectModel = true ∧ v.hardvardMuseumObjectModel = [] := by
  constructor
  · intro h
    have hflag := h.didGetAllHardvardMuseumObjectModel.symm
    have hsections := h.numberOfSections
    rw [numberOfSections, numberOfSections, if_pos rfl, if_pos hflag] at hsections
    exact ⟨hflag, List.length_eq_zero_iff.1 hsections.symm⟩
  · obtain ⟨model, flag⟩ := v
    rintro ⟨rfl, rfl⟩
    exact ⟨rfl, rfl, fun _ => rfl, fun _ => rfl, fun _ => rfl, fun _ => rfl⟩

/-- **The news accessors tell the records**, once some have been assigned. -/
theorem NewsViewModel.same_iff {records : Option (List HardvardMuseumObjectRecord)} {v : NewsViewModel} :
    NewsViewModel.Same ⟨records, true⟩ v ↔
      v.didGetAllHardvardMuseumObjectModel = true ∧ v.hardvardMuseumObjectRecords = records := by
  have hcell : Function.Injective NewsTableCellViewModel.mk := fun _ _ h => NewsTableCellViewModel.mk.inj h
  constructor
  · obtain ⟨records', flag⟩ := v
    intro h
    obtain rfl : true = flag := h.didGetAllHardvardMuseumObjectModel
    refine ⟨rfl, ((served_iff hcell).1 ⟨Except.ok.inj (h.numberOfItemsInSection 0), fun i => ?_⟩).symm⟩
    have hrecord := h.record (0, i)
    cases records <;> cases records' <;> exact hrecord
  · obtain ⟨records', flag⟩ := v
    rintro ⟨rfl, rfl⟩
    exact ⟨rfl, fun _ => rfl, fun _ => rfl⟩

/-- Without a person: a woman's picture, and no names. -/
theorem RecordInformation.same_noPerson_iff {v : RecordInformation} :
    RecordInformation.Same
        { v with personalInfomationModel := none, didGetAllHardvardPersonalInformation := true } v ↔
      v.didGetAllHardvardPersonalInformation = true ∧
        v.personalInfomationModel.bind (·.gender) ≠ some "male" ∧
        v.personalInfomationModel.bind (·.names) = none := by
  constructor
  · intro h
    have hflag := h.didGetAllHardvardPersonalInformation.symm
    have himage := h.image
    have hnames := h.names
    simp only [createImageAccordingToGender, createNames, hflag, if_true] at himage hnames
    refine ⟨hflag, fun hmale => ?_, Option.map_eq_none_iff.1 hnames.symm⟩
    rw [if_pos hmale, if_neg nofun] at himage
    exact absurd himage (by decide)
  · rintro ⟨hflag, hmale, hnames⟩
    refine ⟨hflag.symm, rfl, ?_, ?_, fun _ => rfl, fun _ => rfl⟩
    · simp [createImageAccordingToGender, hflag, hmale]
    · simp [createNames, hflag, hnames]

theorem RecordInformation.same_noObject_iff {v : RecordInformation} :
    RecordInformation.Same
        { v with hardvardMuseumObjectOfPerson := none, didGetObjectAccordingToPerson := true } v ↔
      v.didGetObjectAccordingToPerson = true ∧
        v.hardvardMuseumObjectOfPerson.bind (·.records) = none := by
  have hcell : Function.Injective HomeCollectionCellViewModel.mk :=
    fun _ _ h => HomeCollectionCellViewModel.mk.inj h
  constructor
  · intro h
    have hflag := h.didGetObjectAccordingToPerson.symm
    have hnone : none = v.hardvardMuseumObjectOfPerson.bind (·.records) := by
      refine (served_iff hcell).1 ⟨?_, fun i => ?_⟩
      · have hcount := h.numberOfItemsInSection 0
        rw [RecordInfomationViewModel.numberOfItemsInSection, RecordInfomationViewModel.numberOfItemsInSection,
          if_pos rfl, if_pos hflag] at hcount
        exact Except.ok.inj hcount
      · have hrecord := h.record (0, i)
        simp only [RecordInfomationViewModel.createHardvardMuseumObjectRecord, hflag, Option.bind_none] at hrecord
        cases hobject : v.hardvardMuseumObjectOfPerson.bind (·.records) with
        | none => rfl
        | some records => rw [hobject] at hrecord; exact hrecord
    exact ⟨hflag, hnone.symm⟩
  · rintro ⟨hflag, hnone⟩
    refine ⟨rfl, hflag.symm, rfl, rfl, fun i => ?_, fun i => ?_⟩
    · simp [RecordInfomationViewModel.numberOfItemsInSection, hflag, hnone]
    · simp [RecordInfomationViewModel.createHardvardMuseumObjectRecord, hflag, hnone]

/-! ## Reloads -/

/-- A call of a load function, with the state it finds. -/
inductive Reload
  | home (v : HomeViewModel) (order : Equiv.Perm (Fin 3))
  | news (v : NewsViewModel) (page : Int)
  | personalInformation (v : RecordInformation) (personID : Int)
  | objectAccordingToPerson (v : RecordInformation) (personID : Int)
  | detailedNews (v : DetailedNewsViewModel) (objectID : String)

variable {api : MuseumAPI}

/-- Every request of the call fails. -/
def Reload.AllFail (api : MuseumAPI) : Reload → Prop
  | .home _ _ => ∀ k, RequestFails api.decodeObject (api.response (HomeViewModel.requests k))
  | .news _ page => RequestFails api.decodeObject (api.response (NewsViewModel.request page))
  | .personalInformation _ personID =>
    RequestFails api.decodePerson (api.response (personalInformationRequest personID))
  | .objectAccordingToPerson _ personID =>
    RequestFails api.decodeObject (api.response (objectOfPersonRequest personID))
  | .detailedNews _ objectID =>
    RequestFails api.decodeDetailedNews (api.response (detailedNewsRequest objectID))

/-- The flags are as they were, and so is everything that the accessors serve. -/
def Reload.LosesNothing (api : MuseumAPI) : Reload → Prop
  | .home v order => (v.load api order).Same v
  | .news v page => (v.load api page).Same v
  | .personalInformation v personID => (v.getPersonalInformationModel api personID).Same v
  | .objectAccordingToPerson v personID => (v.getObjectAccordingToPerson api personID).Same v
  | .detailedNews v objectID => (v.getDetailedInformationOfObject api objectID).Same v

/-- The router throws. -/
def Threw (routerResponse : Except NSError RouterResponse) : Prop := ∃ error, routerResponse = .error error

/-- The condition: the first load is done and brought nothing that is served, or the model is not
assigned to because the router throws. -/
def Reload.NothingToLose (api : MuseumAPI) : Reload → Prop
  | .home v _ => v.didGetAllHardvardMuseumObjectModel = true ∧ v.hardvardMuseumObjectModel = []
  | .news v _ => v.didGetAllHardvardMuseumObjectModel = true ∧ v.hardvardMuseumObjectRecords = none
  | .personalInformation v personID =>
    Threw (api.response (personalInformationRequest personID)) ∨
      v.didGetAllHardvardPersonalInformation = true ∧
        v.personalInfomationModel.bind (·.gender) ≠ some "male" ∧
        v.personalInfomationModel.bind (·.names) = none
  | .objectAccordingToPerson v personID =>
    Threw (api.response (objectOfPersonRequest personID)) ∨
      v.didGetObjectAccordingToPerson = true ∧ v.hardvardMuseumObjectOfPerson.bind (·.records) = none
  | .detailedNews v objectID =>
    Threw (api.response (detailedNewsRequest objectID)) ∨ v.detailedInformationOfObject = .empty

/-! ## One lemma for each load -/

/-- A failed home load leaves an empty list, whatever was there. -/
theorem HomeViewModel.load_of_fails {v : HomeViewModel} {order : Equiv.Perm (Fin 3)}
    (h : ∀ k, RequestFails api.decodeObject (api.response (requests k))) :
    v.load api order = ⟨[], true⟩ := by
  have hnone : (fun k => nilOnError (callAndParseAPI api.decodeObject (api.response (requests k)))) =
      fun _ => none := funext fun k => nilOnError_of_fails (h k)
  rw [load, hnone]
  rfl

theorem NewsViewModel.load_of_fails {v : NewsViewModel} {page : Int}
    (h : RequestFails api.decodeObject (api.response (request page))) : v.load api page = ⟨none, true⟩ := by
  rw [load, nilOnError_of_fails h]
  rfl

/-- Where a thrown error is caught before the assignment, the call throws or brings nil. -/
theorem RequestFails.threw_or_nil {D : Type} {decode : Bytes → Except NSError D}
    {routerResponse : Except NSError RouterResponse} (h : RequestFails decode routerResponse) :
    (Threw routerResponse ∧ ∃ error, callAndParseAPI decode routerResponse = .error error) ∨
      (¬ Threw routerResponse ∧ callAndParseAPI decode routerResponse = .ok none) := by
  rw [callAndParseAPI_of_fails h]
  cases routerResponse with
  | error error => exact .inl ⟨⟨error, rfl⟩, error, rfl⟩
  | ok response => exact .inr ⟨by rintro ⟨error, ⟨⟩⟩, rfl⟩

theorem RecordInformation.same_refl (v : RecordInformation) : v.Same v :=
  ⟨rfl, rfl, rfl, rfl, fun _ => rfl, fun _ => rfl⟩

theorem RecordInformation.getPersonalInformationModel_same_iff {v : RecordInformation} {personID : Int}
    (h : RequestFails api.decodePerson (api.response (personalInformationRequest personID))) :
    (v.getPersonalInformationModel api personID).Same v ↔
      Threw (api.response (personalInformationRequest personID)) ∨
        v.didGetAllHardvardPersonalInformation = true ∧
          v.personalInfomationModel.bind (·.gender) ≠ some "male" ∧
          v.personalInfomationModel.bind (·.names) = none := by
  unfold getPersonalInformationModel
  rcases h.threw_or_nil with ⟨hthrew, error, hcall⟩ | ⟨hthrew, hcall⟩
  · rw [hcall]
    exact iff_of_true v.same_refl (.inl hthrew)
  · rw [hcall, or_iff_right hthrew]
    exact same_noPerson_iff

theorem RecordInformation.getObjectAccordingToPerson_same_iff {v : RecordInformation} {personID : Int}
    (h : RequestFails api.decodeObject (api.response (objectOfPersonRequest personID))) :
    (v.getObjectAccordingToPerson api personID).Same v ↔
      Threw (api.response (objectOfPersonRequest personID)) ∨
        v.didGetObjectAccordingToPerson = true ∧ v.hardvardMuseumObjectOfPerson.bind (·.records) = none := by
  unfold RecordInformation.getObjectAccordingToPerson
  rcases h.threw_or_nil with ⟨hthrew, error, hcall⟩ | ⟨hthrew, hcall⟩
  · rw [hcall]
    exact iff_of_true v.same_refl (.inl hthrew)
  · rw [hcall, or_iff_right hthrew]
    exact same_noObject_iff

theorem DetailedNewsViewModel.getDetailedInformationOfObject_same_iff {v : DetailedNewsViewModel}
    {objectID : String}
    (h : RequestFails api.decodeDetailedNews (api.response (detailedNewsRequest objectID))) :
    (v.getDetailedInformationOfObject api objectID).Same v ↔
      Threw (api.response (detailedNewsRequest objectID)) ∨ v.detailedInformationOfObject = .empty := by
  unfold getDetailedInformationOfObject
  rcases h.threw_or_nil with ⟨hthrew, error, hcall⟩ | ⟨hthrew, hcall⟩
  · rw [hcall]
    exact iff_of_true ⟨rfl⟩ (.inl hthrew)
  · rw [hcall, or_iff_right hthrew]
    exact ⟨fun hsame => hsame.detailedInformationOfObject.symm, fun hempty => ⟨hempty.symm⟩⟩

/-- **A failed reload loses nothing exactly when there was nothing to lose**, or, where a thrown
error keeps the model, when the router threw. -/
theorem failed_reload_iff (api : MuseumAPI) (reload : Reload) (h : reload.AllFail api) :
    reload.LosesNothing api ↔ reload.NothingToLose api := by
  cases reload with
  | home v order =>
    change (v.load api order).Same v ↔ _
    rw [HomeViewModel.load_of_fails h]
    exact HomeViewModel.same_nil_iff
  | news v page =>
    change (v.load api page).Same v ↔ _
    rw [NewsViewModel.load_of_fails h]
    exact NewsViewModel.same_iff
  | personalInformation v personID => exact RecordInformation.getPersonalInformationModel_same_iff h
  | objectAccordingToPerson v personID => exact RecordInformation.getObjectAccordingToPerson_same_iff h
  | detailedNews v objectID => exact DetailedNewsViewModel.getDetailedInformationOfObject_same_iff h

/-! ## The network is away -/

/-- Every request throws (`URLError.notConnectedToInternet`). -/
def offline : MuseumAPI where
  response _ := .error ⟨-1009⟩
  decodeObject _ := .error ⟨4864⟩
  decodePerson _ := .error ⟨4864⟩
  decodeDetailedNews _ := .error ⟨4864⟩

/-- A record screen with a person's names. -/
def namedPerson : RecordInformation :=
  ⟨⟨none, false⟩, some ⟨some "male", some [⟨some "Unidentified Artist"⟩]⟩, true⟩

theorem offline_keeps_names : (Reload.personalInformation namedPerson 34147).LosesNothing offline :=
  (failed_reload_iff offline (.personalInformation namedPerson 34147) (.thrown _)).2 (.inl ⟨_, rfl⟩)

/-- A home screen with one section. -/
def oneSection : HomeViewModel := ⟨[some ⟨none, some [⟨some "Self-Portrait", none, none⟩]⟩], true⟩

/-- **A home screen loses its section.** -/
theorem home_reload_loses :
    (Reload.home oneSection (.refl _)).AllFail offline ∧
      ¬ (Reload.home oneSection (.refl _)).LosesNothing offline := by
  refine ⟨fun _ => .thrown _, fun h => ?_⟩
  have hsections := h.numberOfSections
  revert hsections
  decide

end ArtExhibition
