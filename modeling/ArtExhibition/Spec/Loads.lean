import Mathlib.Data.Rat.Defs
import Mathlib.Logic.Equiv.Defs
import ArtExhibition.Spec.Museum
import ArtExhibition.Spec.NetworkManager

/-!
# The loads of the view models

`HomeViewModel`, `NewsViewModel`, `RecordInfomationViewModel` and `DetailedNewsViewModel` from
their requests to what they assign. `MuseumAPI` is what a load gets from outside: the router's
response to each request, and `JSONDecoder.decode` for each type of model. A task group yields the
results of its tasks in the order in which they complete.

The news screen asks for a page at a time, and its loads overlap: `NewsLoads` is its view model
with the loads that were started.
-/

namespace ArtExhibition

open Wire Networking

/-! ## Models -/

structure Name where
  displayname : Option String
  deriving DecidableEq, Repr

structure HardvardMuseumPerson where
  gender : Option String
  names : Option (List Name)
  deriving DecidableEq, Repr

structure DetailedNewsColors where
  color : Option String
  /-- a JSON number -/
  percent : Option ℚ
  deriving DecidableEq, Repr

structure DetailedNewsText where
  context : Option String
  text : Option String
  deriving DecidableEq, Repr

structure DetailedNewsImages where
  date : Option String
  idsid : Option Int
  description : Option String
  iiifbaseuri : Option String
  deriving DecidableEq, Repr

structure DetailedNewsModel where
  objectid : Option Int
  provenance : Option String
  colors : Option (List DetailedNewsColors)
  contextualtext : Option DetailedNewsText
  images : Option (List DetailedNewsImages)
  deriving DecidableEq, Repr

/-- `DetailedNewsModel()`. -/
def DetailedNewsModel.empty : DetailedNewsModel := ⟨none, none, none, none, none⟩

/-- What a load gets from outside. -/
structure MuseumAPI where
  response : BaseEnpoint → Except NSError RouterResponse
  decodeObject : Bytes → Except NSError HardvardMuseumObject
  decodePerson : Bytes → Except NSError HardvardMuseumPerson
  decodeDetailedNews : Bytes → Except NSError DetailedNewsModel

/-! ## Requests -/

def keyAPI : String := "8ec7be1d-7776-4f2e-9498-344a8d3cfb7a"

/-- `["apikey": …]`. -/
def keyParameters : Parameters := ⟨[("apikey", .string keyAPI)], by simp⟩

/-- `["apikey": …, "q": "totalpageviews:…", "size": 200]`. -/
def totalpageviews (page : Int) : Parameters :=
  ⟨[("apikey", .string keyAPI), ("q", .string ("totalpageviews:" ++ toString page)),
    ("size", .other "200" true)], by simp⟩

/-- `parameters`, `parametersTwo` and `parametersThree`. -/
def HomeViewModel.requests : Fin 3 → BaseEnpoint
  | 0 => .getExihibitionFromHardvardMuseum (totalpageviews 0)
  | 1 => .getExihibitionFromHardvardMuseum (totalpageviews 10)
  | 2 => .getExihibitionFromHardvardMuseum (totalpageviews 20)

def NewsViewModel.request (page : Int) : BaseEnpoint :=
  .getExihibitionFromHardvardMuseum (totalpageviews page)

def personalInformationRequest (personID : Int) : BaseEnpoint :=
  .getPeronalInformation (toString personID) keyParameters

def objectOfPersonRequest (personID : Int) : BaseEnpoint :=
  .getObjectAccordingToPerson
    ⟨[("apikey", .string keyAPI), ("person", .other (toString personID) true)], by simp⟩

def detailedNewsRequest (objectID : String) : BaseEnpoint :=
  .getDetailedInformationOfObject objectID keyParameters

/-! ## Home -/

/-- The group's results in the order of completion: task `order k` is the `k`-th. -/
def completed {Object : Type} (results : Fin 3 → Option Object) (order : Equiv.Perm (Fin 3)) :
    List (Option Object) :=
  List.ofFn fun k => results (order k)

def HomeViewModel.collect (v : HomeViewModel) (results : Fin 3 → Option HardvardMuseumObject)
    (order : Equiv.Perm (Fin 3)) : HomeViewModel :=
  v.getHardvardMuseumObjectModel (completed results order)

def HomeViewModel.load (api : MuseumAPI) (order : Equiv.Perm (Fin 3)) (v : HomeViewModel) : HomeViewModel :=
  v.collect (fun k => nilOnError (callAndParseAPI api.decodeObject (api.response (requests k)))) order

/-! ## The records of one person, with the person -/

/-- `RecordInfomationViewModel` with its half about the person. -/
structure RecordInformation extends RecordInfomationViewModel where
  personalInfomationModel : Option HardvardMuseumPerson
  didGetAllHardvardPersonalInformation : Bool
  deriving DecidableEq, Repr

/-- A thrown error is caught before the assignment. -/
def RecordInformation.getPersonalInformationModel (api : MuseumAPI) (personID : Int)
    (v : RecordInformation) : RecordInformation :=
  match callAndParseAPI api.decodePerson (api.response (personalInformationRequest personID)) with
  | .ok person => { v with personalInfomationModel := person, didGetAllHardvardPersonalInformation := true }
  | .error _ => v

def RecordInformation.getObjectAccordingToPerson (api : MuseumAPI) (personID : Int)
    (v : RecordInformation) : RecordInformation :=
  { v with
    toRecordInfomationViewModel := v.toRecordInfomationViewModel.getObjectAccordingToPerson
      (callAndParseAPI api.decodeObject (api.response (objectOfPersonRequest personID))) }

/-- `UIImage(named:)`, by the name. -/
def RecordInformation.createImageAccordingToGender (v : RecordInformation) : Option String :=
  if v.didGetAllHardvardPersonalInformation then
    if v.personalInfomationModel.bind (·.gender) = some "male" then some "icons8-man-artist"
    else some "icons8-woman-artist"
  else none

def RecordInformation.createNames (v : RecordInformation) : Option String :=
  if v.didGetAllHardvardPersonalInformation then
    (v.personalInfomationModel.bind (·.names)).map fun names =>
      " - ".intercalate (names.filterMap (·.displayname))
  else none

/-! ## Detailed news -/

/-- `detailedInformationOfObject` is read as it is. -/
structure DetailedNewsViewModel where
  detailedInformationOfObject : DetailedNewsModel
  deriving DecidableEq, Repr

def DetailedNewsViewModel.getDetailedInformationOfObject (api : MuseumAPI) (objectID : String)
    (v : DetailedNewsViewModel) : DetailedNewsViewModel :=
  match callAndParseAPI api.decodeDetailedNews (api.response (detailedNewsRequest objectID)) with
  | .ok model => ⟨model.getD .empty⟩
  | .error _ => v

/-! ## News -/

def NewsViewModel.load (api : MuseumAPI) (page : Int) (v : NewsViewModel) : NewsViewModel :=
  v.getHardvardMuseumObjectModel
    (nilOnError (callAndParseAPI api.decodeObject (api.response (request page))))

/-- A call of `getHardvardMuseumObjectModel(accordingTo:)`. -/
structure NewsLoad where
  page : Int
  /-- what its task returned, once it has -/
  result : Option (Option HardvardMuseumObject)
  deriving DecidableEq, Repr

structure NewsLoads where
  viewModel : NewsViewModel
  /-- in the order of the calls -/
  loads : List NewsLoad
  deriving DecidableEq, Repr

inductive NewsLoadEvent
  /-- a call, whose request goes out -/
  | getHardvardMuseumObjectModel (page : Int)
  /-- the request of call `i` completes, and the call assigns its records -/
  | complete (i : ℕ) (response : Except NSError RouterResponse)
  deriving DecidableEq

def NewsLoads.step (decode : Bytes → Except NSError HardvardMuseumObject) (s : NewsLoads) :
    NewsLoadEvent → Option NewsLoads
  | .getHardvardMuseumObjectModel page => some { s with loads := s.loads ++ [⟨page, none⟩] }
  | .complete i response =>
    match s.loads[i]? with
    | some ⟨page, none⟩ =>
      let result := nilOnError (callAndParseAPI decode response)
      some ⟨s.viewModel.getHardvardMuseumObjectModel result, s.loads.set i ⟨page, some result⟩⟩
    | _ => none

end ArtExhibition
