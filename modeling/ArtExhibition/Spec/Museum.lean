import Mathlib.Data.List.Basic
import ArtExhibition.Spec.Callbacks

/-!
# The museum's records and the view models of its three screens

`HomeViewModel`, `NewsViewModel` and `RecordInfomationViewModel`: what a load assigns to them,
and the accessors their screens call. A subscript out of range is a trap; the accessors
guard on the flag that the first assignment sets, and on the optionals.

Of the decoded JSON, only what these functions and the cells read is here.
-/

namespace ArtExhibition

/-- Section and item (or row). -/
abbrev IndexPath := ℕ × ℕ

/-- What ends the program. -/
inductive Trap
  | indexOutOfRange
  deriving DecidableEq, Repr

/-- `list[index]`. -/
def subscript {α : Type} (list : List α) (index : ℕ) : Except Trap α :=
  match list[index]? with
  | some a => .ok a
  | none => .error .indexOutOfRange

structure Person where
  personid : Option Int
  deriving DecidableEq, Repr

structure Image where
  date : Option String
  iiifbaseuri : Option String
  width : Option Int
  height : Option Int
  deriving DecidableEq, Repr

structure HardvardMuseumObjectRecord where
  title : Option String
  people : Option (List Person)
  images : Option (List Image)
  deriving DecidableEq, Repr

structure HardvardMuseumObjectInfo where
  totalrecords : Option Int
  deriving DecidableEq, Repr

structure HardvardMuseumObject where
  info : Option HardvardMuseumObjectInfo
  records : Option (List HardvardMuseumObjectRecord)
  deriving DecidableEq, Repr

structure HomeHeaderCollectionViewModel where
  model : HardvardMuseumObjectInfo
  deriving DecidableEq, Repr

structure HomeCollectionCellViewModel where
  model : HardvardMuseumObjectRecord
  deriving DecidableEq, Repr

structure NewsTableCellViewModel where
  model : HardvardMuseumObjectRecord
  deriving DecidableEq, Repr

/-! ## Home -/

structure HomeViewModel where
  hardvardMuseumObjectModel : List (Option HardvardMuseumObject)
  didGetAllHardvardMuseumObjectModel : Bool
  deriving DecidableEq, Repr

/-- The list that `getHardvardMuseumObjectModel` makes of the results of its requests, in the order in
which they came, nil where a request failed. It does not look into the objects. -/
def HomeViewModel.sections {Object : Type} (results : List (Option Object)) : List (Option Object) :=
  (results.filterMap id).map some

/-- What `getHardvardMuseumObjectModel` assigns. -/
def HomeViewModel.getHardvardMuseumObjectModel (_ : HomeViewModel)
    (results : List (Option HardvardMuseumObject)) : HomeViewModel :=
  ⟨sections results, true⟩

def HomeViewModel.numberOfSections (v : HomeViewModel) : ℕ :=
  if v.didGetAllHardvardMuseumObjectModel then v.hardvardMuseumObjectModel.length else 1

def HomeViewModel.createHomeHeaderCollectionViewModel (v : HomeViewModel) (atIndexPath : IndexPath) :
    Except Trap (Option HomeHeaderCollectionViewModel) :=
  if v.didGetAllHardvardMuseumObjectModel then do
    let object ← subscript v.hardvardMuseumObjectModel atIndexPath.1
    return (object.bind (·.info)).map fun model => ⟨model⟩
  else return none

def HomeViewModel.numberOfItemsInSection (v : HomeViewModel) (section_ : ℕ) : Except Trap ℕ :=
  if v.didGetAllHardvardMuseumObjectModel then do
    let object ← subscript v.hardvardMuseumObjectModel section_
    return ((object.bind (·.records)).map List.length).getD 1
  else return 1

/-- `hardvardMuseumObjectModel[section]?.records?[item]`. -/
def HomeViewModel.record (v : HomeViewModel) (atIndexPath : IndexPath) :
    Except Trap (Option HardvardMuseumObjectRecord) := do
  let object ← subscript v.hardvardMuseumObjectModel atIndexPath.1
  match object.bind (·.records) with
  -- the optional chain ends before the second subscript
  | none => return none
  | some records => return some (← subscript records atIndexPath.2)

def HomeViewModel.createHardvardMuseumObjectRecord (v : HomeViewModel) (atIndexPath : IndexPath) :
    Except Trap (Option HomeCollectionCellViewModel) :=
  if v.didGetAllHardvardMuseumObjectModel then do
    return (← v.record atIndexPath).map fun model => ⟨model⟩
  else return none

def HomeViewModel.createPersonID (v : HomeViewModel) (atIndexPath : IndexPath) :
    Except Trap (Option Int) :=
  if v.didGetAllHardvardMuseumObjectModel then do
    return (← v.record atIndexPath).bind fun model =>
      (model.people.bind List.head?).bind (·.personid)
  else return none

/-! ## News -/

structure NewsViewModel where
  hardvardMuseumObjectRecords : Option (List HardvardMuseumObjectRecord)
  didGetAllHardvardMuseumObjectModel : Bool
  deriving DecidableEq, Repr

/-- What `getHardvardMuseumObjectModel(accordingTo:)` assigns: the records of its request's
result, nil where the request failed. -/
def NewsViewModel.getHardvardMuseumObjectModel (_ : NewsViewModel) (result : Option HardvardMuseumObject) :
    NewsViewModel :=
  ⟨result.bind (·.records), true⟩

def NewsViewModel.numberOfItemsInSection (v : NewsViewModel) (_section : ℕ) : Except Trap ℕ :=
  if v.didGetAllHardvardMuseumObjectModel then
    return (v.hardvardMuseumObjectRecords.map List.length).getD 1
  else return 1

def NewsViewModel.createHardvardMuseumObjectRecord (v : NewsViewModel) (atIndexPath : IndexPath) :
    Except Trap (Option NewsTableCellViewModel) :=
  match v.didGetAllHardvardMuseumObjectModel, v.hardvardMuseumObjectRecords with
  | true, some records => do return some ⟨← subscript records atIndexPath.2⟩
  | _, _ => return none

/-! ## The records of one person -/

structure RecordInfomationViewModel where
  hardvardMuseumObjectOfPerson : Option HardvardMuseumObject
  didGetObjectAccordingToPerson : Bool
  deriving DecidableEq, Repr

/-- `getObjectAccordingToPerson`: a thrown error is caught before the assignment. -/
def RecordInfomationViewModel.getObjectAccordingToPerson (v : RecordInfomationViewModel)
    (response : Except NSError (Option HardvardMuseumObject)) : RecordInfomationViewModel :=
  match response with
  | .ok object => ⟨object, true⟩
  | .error _ => v

def RecordInfomationViewModel.numberOfItemsInSection (v : RecordInfomationViewModel) (_section : ℕ) :
    Except Trap ℕ :=
  if v.didGetObjectAccordingToPerson then
    return ((v.hardvardMuseumObjectOfPerson.bind (·.records)).map List.length).getD 1
  else return 1

def RecordInfomationViewModel.createHardvardMuseumObjectRecord (v : RecordInfomationViewModel)
    (atIndexPath : IndexPath) : Except Trap (Option HomeCollectionCellViewModel) :=
  match v.didGetObjectAccordingToPerson, v.hardvardMuseumObjectOfPerson.bind (·.records) with
  | true, some records => do return some ⟨← subscript records atIndexPath.2⟩
  | _, _ => return none

end ArtExhibition
