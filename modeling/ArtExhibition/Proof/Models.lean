import ArtExhibition.Proof.FailedReloads
import ArtExhibition.Spec.Models

/-!
# What the museum's pages have to look like, and what a round trip keeps

* `models_round_trip`: a model that is encoded and decoded again has lost its `JSONNull`s and nothing
  else; what the app reads of it is the same.
* `rows_of_bodies`: the sections and rows that the screens show after a load are those of the bodies
  that have the shape of a page.
-/

namespace ArtExhibition.Models

open Wire Networking

/-! ## Round trips -/

section Kept

variable {α : Type} {c : Codable α}

theorem keptIfPresent_of_writesNull (h : c.writesNull = true) (value : Option α) :
    c.keptIfPresent value = none := by
  cases value <;> simp [Codable.keptIfPresent, h]

theorem keptIfPresent_of_not_writesNull (h : c.writesNull = false) (value : Option α) :
    c.keptIfPresent value = value.map c.kept := by
  cases value <;> simp [Codable.keptIfPresent, h]

@[simp] theorem jsonNull_keptIfPresent (value : Option JSONNull) : jsonNull.keptIfPresent value = none :=
  keptIfPresent_of_writesNull rfl value

@[simp] theorem string_keptIfPresent (value : Option String) : Codable.string.keptIfPresent value = value := by
  simp [keptIfPresent_of_not_writesNull, Codable.string]

@[simp] theorem int_keptIfPresent (value : Option Int64) : Codable.int.keptIfPresent value = value := by
  simp [keptIfPresent_of_not_writesNull, Codable.int]

@[simp] theorem double_keptIfPresent (value : Option Double) : Codable.double.keptIfPresent value = value := by
  simp [keptIfPresent_of_not_writesNull, Codable.double]

@[simp] theorem array_keptIfPresent (value : Option (List α)) :
    c.array.keptIfPresent value = value.map (List.map c.kept) :=
  keptIfPresent_of_not_writesNull rfl value

end Kept

def Coins.withoutNulls (coins : Coins) : Coins := { coins with dieaxis := none, dateonobject := none }

def Details.withoutNulls (details : Details) : Details := ⟨details.coins.map Coins.withoutNulls⟩

def Image.withoutNulls (image : Image) : Image :=
  { image with imageDescription := none, technique := none, alttext := none, publiccaption := none }

def Person.withoutNulls (person : Person) : Person := { person with birthplace := none, deathplace := none }

def HardvardMuseumObjectRecord.withoutNulls (record : HardvardMuseumObjectRecord) :
    HardvardMuseumObjectRecord :=
  { record with
    copyright := none, dateoflastpageview := none, state := none, signed := none, style := none
    commentary := none, edition := none, provenance := none, dateoffirstpageview := none
    labeltext := none, details := record.details.map Details.withoutNulls
    images := record.images.map (List.map Image.withoutNulls)
    people := record.people.map (List.map Person.withoutNulls) }

/-- The page without its `JSONNull`s. -/
def HardvardMuseumObject.withoutNulls (page : HardvardMuseumObject) : HardvardMuseumObject :=
  { page with records := page.records.map (List.map HardvardMuseumObjectRecord.withoutNulls) }

theorem coins_kept : Coins.codable.kept = Coins.withoutNulls := by
  funext coins
  simp [Coins.codable, Coins.withoutNulls]

theorem details_kept : Details.codable.kept = Details.withoutNulls := by
  funext details
  simp [Details.codable, Details.withoutNulls, ← coins_kept,
    keptIfPresent_of_not_writesNull (c := Coins.codable) rfl]

theorem image_kept : Image.codable.kept = Image.withoutNulls := by
  funext image
  simp [Image.codable, Image.withoutNulls]

theorem person_kept : Person.codable.kept = Person.withoutNulls := by
  funext person
  simp [Person.codable, Person.withoutNulls]

theorem color_kept : Color.codable.kept = id := by
  funext color
  simp [Color.codable]

theorem worktype_kept : Worktype.codable.kept = id := by
  funext worktype
  simp [Worktype.codable]

theorem seeAlso_kept : SeeAlso.codable.kept = id := by
  funext seeAlso
  simp [SeeAlso.codable]

theorem info_kept : HardvardMuseumObjectInfo.codable.kept = id := by
  funext info
  simp [HardvardMuseumObjectInfo.codable]

theorem name_kept : Name.codable.kept = id := by
  funext name
  simp [Name.codable]

theorem newsColors_kept : DetailedNewsColors.codable.kept = id := by
  funext color
  simp [DetailedNewsColors.codable]

theorem newsText_kept : DetailedNewsText.codable.kept = id := by
  funext text
  simp [DetailedNewsText.codable]

theorem newsImages_kept : DetailedNewsImages.codable.kept = id := by
  funext image
  simp [DetailedNewsImages.codable]

theorem record_kept : HardvardMuseumObjectRecord.codable.kept = HardvardMuseumObjectRecord.withoutNulls := by
  funext record
  simp [HardvardMuseumObjectRecord.codable, HardvardMuseumObjectRecord.withoutNulls, image_kept, person_kept,
    color_kept, worktype_kept, seeAlso_kept, ← details_kept,
    keptIfPresent_of_not_writesNull (c := Details.codable) rfl]

theorem page_kept : HardvardMuseumObject.codable.kept = HardvardMuseumObject.withoutNulls := by
  funext page
  simp [HardvardMuseumObject.codable, HardvardMuseumObject.withoutNulls, record_kept, info_kept,
    keptIfPresent_of_not_writesNull (c := HardvardMuseumObjectInfo.codable) rfl]

/-- The person without its `JSONNull`s. -/
def HardvardMuseumPerson.withoutNulls (person : HardvardMuseumPerson) : HardvardMuseumPerson :=
  { person with birthplace := none, deathplace := none }

theorem person_model_kept : HardvardMuseumPerson.codable.kept = HardvardMuseumPerson.withoutNulls := by
  funext person
  simp [HardvardMuseumPerson.codable, HardvardMuseumPerson.withoutNulls, name_kept]

theorem news_kept : DetailedNewsModel.codable.kept = id := by
  funext news
  simp [DetailedNewsModel.codable, newsColors_kept, newsImages_kept,
    newsText_kept, keptIfPresent_of_not_writesNull (c := DetailedNewsText.codable) rfl]

theorem record_read_withoutNulls (record : HardvardMuseumObjectRecord) :
    record.withoutNulls.read = record.read := by
  simp only [HardvardMuseumObjectRecord.read, HardvardMuseumObjectRecord.withoutNulls, Option.map_map]
  rw [show List.map Person.read ∘ List.map Person.withoutNulls = List.map Person.read from
    funext fun people => List.map_map .., show List.map Image.read ∘ List.map Image.withoutNulls =
    List.map Image.read from funext fun images => List.map_map ..]

/-- **What an encoded model is read back as**: the `JSONNull`s of a page and of a person are lost,
and nothing else; the app reads the same of the model. -/
theorem models_round_trip :
    (∀ page, HardvardMuseumObject.codable.decode (HardvardMuseumObject.codable.encode page) =
        .ok page.withoutNulls ∧ page.withoutNulls.read = page.read) ∧
    (∀ person, HardvardMuseumPerson.codable.decode (HardvardMuseumPerson.codable.encode person) =
        .ok person.withoutNulls ∧ person.withoutNulls.read = person.read) ∧
    ∀ news, DetailedNewsModel.codable.decode (DetailedNewsModel.codable.encode news) = .ok news := by
  refine ⟨fun page => ⟨?_, ?_⟩, fun person => ⟨?_, rfl⟩, fun news => ?_⟩
  · rw [HardvardMuseumObject.codable.decode_encode, page_kept]
  · simp only [HardvardMuseumObject.read, HardvardMuseumObject.withoutNulls, Option.map_map]
    rw [show List.map HardvardMuseumObjectRecord.read ∘ List.map HardvardMuseumObjectRecord.withoutNulls =
      List.map HardvardMuseumObjectRecord.read from
      funext fun records => by simp [record_read_withoutNulls]]
  · rw [HardvardMuseumPerson.codable.decode_encode, person_model_kept]
  · rw [DetailedNewsModel.codable.decode_encode, news_kept]
    rfl

/-! ## Loads -/

/-- The JSON of the body of a successful response. -/
def body (parse : Bytes → Option JSON) (response : Except NSError RouterResponse) : Option JSON :=
  match response with
  | .ok ⟨some data, some (.http http)⟩ => if http.IsSuccess then parse data else none
  | _ => none

/-- What a page is meant to look like. -/
def pageShape : Shape := HardvardMuseumObject.codable.shape

/-- The records that a page lists; the screens show one empty row where it lists none. -/
def rows : JSON → ℕ
  | .object members =>
    match members.lookup "records" with
    | some (.array records) => records.length
    | _ => 1
  | _ => 1

theorem length_of_mapM {α : Type} {f : JSON → Except DecodingError α} {elements : List JSON}
    {values : List α} (h : elements.mapM f = .ok values) : values.length = elements.length := by
  induction elements generalizing values with
  | nil =>
    obtain rfl : [] = values := Except.ok.inj h
    rfl
  | cons j elements ih =>
    rw [List.mapM_cons] at h
    cases hj : f j with
    | error e =>
      rw [hj] at h
      cases h
    | ok a =>
      cases hrest : elements.mapM f with
      | error e =>
        rw [hj, hrest] at h
        cases h
      | ok rest =>
        rw [hj, hrest] at h
        obtain rfl : a :: rest = values := Except.ok.inj h
        rw [List.length_cons, List.length_cons, ih hrest]

theorem records_of_decode {members : List (String × JSON)} {page : HardvardMuseumObject}
    (h : HardvardMuseumObject.codable.decode (.object members) = .ok page) :
    HardvardMuseumObjectRecord.codable.array.decodeIfPresent "records" members = .ok page.records := by
  simp only [HardvardMuseumObject.codable, Codable.struct, Properties.decode, bind, Except.bind,
    Except.map, pure, Except.pure] at h
  split at h
  · cases h
  rename_i values hvalues
  split at hvalues
  · cases hvalues
  split at hvalues
  · cases hvalues
  rename_i info _ _ rest hrest
  obtain rfl := Except.ok.inj hvalues
  obtain rfl := Except.ok.inj h
  split at hrest
  · cases hrest
  · rename_i records hrecords
    obtain rfl := Except.ok.inj hrest
    exact hrecords

/-- **A decoded page has the records that its JSON lists.** -/
theorem rows_of_decode {j : JSON} {page : HardvardMuseumObject}
    (h : HardvardMuseumObject.codable.decode j = .ok page) :
    (page.records.map List.length).getD 1 = rows j := by
  cases j with
  | object members =>
    have hrecords := records_of_decode h
    unfold Codable.decodeIfPresent at hrecords
    cases hlookup : members.lookup "records" with
    | none =>
      rw [hlookup] at hrecords
      simp [rows, hlookup, ← Except.ok.inj hrecords]
    | some j =>
      rw [hlookup] at hrecords
      cases j with
      | null => simp [rows, hlookup, ← Except.ok.inj hrecords]
      | array elements =>
        obtain ⟨records, hdecode, heq⟩ : ∃ records,
            elements.mapM HardvardMuseumObjectRecord.codable.decode = .ok records ∧
              some records = page.records := by
          simp only [Codable.array] at hrecords
          cases hdecode : elements.mapM HardvardMuseumObjectRecord.codable.decode with
          | error e =>
            rw [hdecode] at hrecords
            cases hrecords
          | ok records =>
            rw [hdecode] at hrecords
            exact ⟨records, rfl, Except.ok.inj hrecords⟩
        simp [rows, hlookup, ← heq, length_of_mapM hdecode]
      | _ => cases hrecords
  | _ => cases h

section Loads

variable {parse : Bytes → Option JSON}

/-- **A request's result**: the model that its body decodes to. -/
theorem nilOnError_callAndParseAPI {α β : Type} (c : Codable α) (read : α → β)
    (response : Except NSError RouterResponse) :
    nilOnError (callAndParseAPI (fun data => (decode parse c data).map read) response) =
      (body parse response).bind fun j => (c.decode j).toOption.map read := by
  rcases response with err | ⟨data, response⟩
  · rfl
  rcases response with - | http | -
  · cases data <;> rfl
  · by_cases hsuccess : http.IsSuccess
    · cases data with
      | none => simp [callAndParseAPI, Except.map, URLResponse.asHTTP, body, nilOnError,
          (handleNetworkResponse_success_iff http).2 hsuccess]
      | some data =>
        simp only [callAndParseAPI, Except.map, Option.bind_some, URLResponse.asHTTP, body, nilOnError,
          (handleNetworkResponse_success_iff http).2 hsuccess, if_pos hsuccess, decode]
        cases parse data with
        | none => rfl
        | some j => cases hj : c.decode j <;> simp [Except.mapError, Except.toOption, hj]
    · rw [nilOnError_of_fails (.status data http hsuccess)]
      cases data <;> simp [body, hsuccess]
  · cases data <;> rfl

open Classical in
/-- The body of a response, if it is a page. -/
noncomputable def pageOf (parse : Bytes → Option JSON) (response : Except NSError RouterResponse) :
    Option JSON :=
  (body parse response).filter fun j => pageShape.Fits j

/-- What a request for a page gives, up to the numbers that the screens show. -/
theorem rows_of_result (parse : Bytes → Option JSON)
    (response : BaseEnpoint → Except NSError RouterResponse) (r : Except NSError RouterResponse) :
    (nilOnError (callAndParseAPI (api parse response).decodeObject r)).map
        (fun page => (page.records.map List.length).getD 1) = (pageOf parse r).map rows := by
  rw [show (api parse response).decodeObject = fun data => (decode parse HardvardMuseumObject.codable data).map
    HardvardMuseumObject.read from rfl, nilOnError_callAndParseAPI, pageOf]
  cases body parse r with
  | none => rfl
  | some j =>
    rw [Option.bind_some, Option.filter_some]
    by_cases hfits : pageShape.Fits j
    · obtain ⟨page, hpage⟩ := (HardvardMuseumObject.codable.decode_iff j).2 hfits
      have hrows := rows_of_decode hpage
      rw [hpage, if_pos (by simpa using hfits), Option.map_some, ← hrows]
      simp [Except.toOption, HardvardMuseumObject.read, Function.comp_def]
    · have hnone := mt (HardvardMuseumObject.codable.decode_iff j).1 hfits
      rw [if_neg (by simpa using hfits)]
      cases hdecode : HardvardMuseumObject.codable.decode j with
      | error e => rfl
      | ok page => exact absurd ⟨page, hdecode⟩ hnone

/-- The items of all sections of the home screen. -/
def itemsOfSections (v : HomeViewModel) : List (Except Trap ℕ) :=
  (List.range v.numberOfSections).map v.numberOfItemsInSection

theorem itemsOfSections_load (pages : List ArtExhibition.HardvardMuseumObject) :
    itemsOfSections ⟨pages.map some, true⟩ =
      pages.map fun page => .ok ((page.records.map List.length).getD 1) := by
  refine List.ext_getElem (by simp [itemsOfSections, HomeViewModel.numberOfSections]) fun i h _ => ?_
  have hi : i < pages.length := by simpa [itemsOfSections, HomeViewModel.numberOfSections] using h
  simp [itemsOfSections, HomeViewModel.numberOfItemsInSection, subscript, hi]

theorem filterMap_id_ofFn {β : Type} {n : ℕ} (results : Fin n → Option β) (order : Fin n → Fin n) :
    (List.ofFn fun k => results (order k)).filterMap id = (List.ofFn order).filterMap results := by
  rw [show (fun k => results (order k)) = results ∘ order from rfl, ← List.map_ofFn, List.filterMap_map]
  rfl

/-- **What the screens show of the responses**: a section of the home screen for each body that is a
page, in the order in which the requests completed, and one row for each record that it lists. A body
with one misfit anywhere counts as no page. -/
theorem rows_of_bodies (parse : Bytes → Option JSON)
    (response : BaseEnpoint → Except NSError RouterResponse) :
    (∀ order v, itemsOfSections (HomeViewModel.load (api parse response) order v) =
      (List.ofFn order).filterMap fun k =>
        (pageOf parse (response (HomeViewModel.requests k))).map fun j => .ok (rows j)) ∧
    (∀ page v i, (NewsViewModel.load (api parse response) page v).numberOfItemsInSection i =
      .ok (((pageOf parse (response (NewsViewModel.request page))).map rows).getD 1)) ∧
    ∀ personID v i,
      (RecordInformation.getObjectAccordingToPerson (api parse response) personID v).numberOfItemsInSection i =
        match response (objectOfPersonRequest personID) with
        | .ok r => .ok (((pageOf parse (.ok r)).map rows).getD 1)
        | .error _ => v.numberOfItemsInSection i := by
  refine ⟨fun order v => ?_, fun page v i => ?_, fun personID v i => ?_⟩
  · unfold HomeViewModel.load HomeViewModel.collect HomeViewModel.getHardvardMuseumObjectModel
      HomeViewModel.sections completed
    rw [itemsOfSections_load]
    refine (congrArg (List.map _) (filterMap_id_ofFn (fun k => nilOnError (callAndParseAPI
      (api parse response).decodeObject (response (HomeViewModel.requests k)))) order)).trans ?_
    rw [List.map_filterMap]
    refine congrArg (List.filterMap · _) (funext fun k => ?_)
    have hresult := rows_of_result parse response (response (HomeViewModel.requests k))
    rw [← Function.comp_def Except.ok rows, ← Option.map_map, ← hresult, Option.map_map]
    rfl
  · have hresult := rows_of_result parse response
      (response (NewsViewModel.request page))
    rw [← hresult]
    unfold NewsViewModel.load NewsViewModel.getHardvardMuseumObjectModel
      NewsViewModel.numberOfItemsInSection
    rw [if_pos rfl]
    dsimp only [api]
    cases nilOnError _ <;> rfl
  · have hload : (RecordInformation.getObjectAccordingToPerson (api parse response) personID
        v).toRecordInfomationViewModel = v.toRecordInfomationViewModel.getObjectAccordingToPerson
          (callAndParseAPI (api parse response).decodeObject (response (objectOfPersonRequest personID))) := rfl
    rw [hload]
    cases response (objectOfPersonRequest personID) with
    | error e => rfl
    | ok r =>
      have hresult := rows_of_result parse response (.ok r)
      -- nothing is thrown after the response
      obtain ⟨result, hcall⟩ : ∃ result,
          callAndParseAPI (api parse response).decodeObject (.ok r) = .ok result := ⟨_, rfl⟩
      dsimp only
      rw [← hresult, hcall]
      cases result <;> rfl

end Loads

end ArtExhibition.Models
