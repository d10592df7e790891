import ArtExhibition.Machine.Mirror
import ArtExhibition.Spec.Loads

/-!
# The screens as they appear and disappear

`BaseViewController` over one property of its view model. `viewWillAppear` adds an observation of
the property's flag, `viewDidAppear` starts a load, `viewDidDisappear` invalidates all the
observations. A load that ends assigns the property, or nothing where its error is caught; the
`didSet` of the property sets the flag, and each observation dispatches a block to the main queue,
which puts the property on the screen as it is when the block runs. Loads run off the main thread:
the screen may appear or disappear between an assignment and its `didSet`.

A collection or table view that reloads asks the view model for everything anew, its counts and then
its cells, so what it shows is the view model at its last reload.
-/

namespace ArtExhibition

open Machine Networking

/-- A property of a view model: what a load that ends assigns, and what the block displays. -/
structure ObservedProperty (V S R : Type) where
  assign : R → V → Option V
  display : V → S

/-- The value is the view model. -/
structure AppearingScreen (V S : Type) extends Mirror V S where
  observations : ℕ
  /-- loads that have not ended -/
  loads : ℕ

/-- A new screen: its view is drawn before any load. -/
def AppearingScreen.new {V S : Type} (viewModel : V) (shown : S) : AppearingScreen V S where
  value := viewModel
  shown := shown
  unannounced := 0
  refreshes := 0
  observations := 0
  loads := 0

inductive AppearanceEvent (R : Type)
  | viewWillAppear
  | viewDidAppear
  | viewWillDisappear
  | viewDidDisappear
  | loadEnds (result : R)
  | didSet
  | runBlock
  deriving DecidableEq

section

variable {V S R : Type}

def AppearingScreen.withMirror (s : AppearingScreen V S) (mirror : Mirror V S) : AppearingScreen V S :=
  { s with toMirror := mirror }

/-- **One event.** -/
def ObservedProperty.step (p : ObservedProperty V S R) (s : AppearingScreen V S) :
    AppearanceEvent R → Option (AppearingScreen V S)
  | .viewWillAppear => some { s with observations := s.observations + 1 }
  | .viewDidAppear => some { s with loads := s.loads + 1 }
  | .viewWillDisappear => some s
  | .viewDidDisappear => some { s with observations := 0 }
  | .loadEnds result =>
    if s.loads = 0 then none
    else
      match p.assign result s.value with
      | some viewModel => some { s.withMirror (s.write viewModel) with loads := s.loads - 1 }
      | none => some { s with loads := s.loads - 1 }
  | .didSet => (s.announce s.observations).map s.withMirror
  | .runBlock => (s.refresh p.display).map s.withMirror

/-- No load runs, and the main queue is empty. -/
structure AppearingScreen.Settled (s : AppearingScreen V S) : Prop where
  loads : s.loads = 0
  quiet : s.toMirror.Quiet

end

/-! ## What a reload shows -/

/-- A section: the count is asked for, and then each item. -/
def itemsShown {Cell : Type} (numberOfItemsInSection : ℕ → Except Trap ℕ)
    (cell : IndexPath → Except Trap (Option Cell)) (section_ : ℕ) : Except Trap (List (Option Cell)) := do
  let items ← numberOfItemsInSection section_
  (List.range items).mapM fun item => cell (section_, item)

/-- The collection of the home screen, each section with its header. -/
def HomeViewModel.shown (v : HomeViewModel) :
    Except Trap (List (Option HomeHeaderCollectionViewModel × List (Option HomeCollectionCellViewModel))) :=
  (List.range v.numberOfSections).mapM fun section_ => do
    let header ← v.createHomeHeaderCollectionViewModel (section_, 0)
    let cells ← itemsShown v.numberOfItemsInSection v.createHardvardMuseumObjectRecord section_
    return (header, cells)

def NewsViewModel.shown (v : NewsViewModel) : Except Trap (List (Option NewsTableCellViewModel)) :=
  itemsShown v.numberOfItemsInSection v.createHardvardMuseumObjectRecord 0

def RecordInfomationViewModel.shown (v : RecordInfomationViewModel) :
    Except Trap (List (Option HomeCollectionCellViewModel)) :=
  itemsShown v.numberOfItemsInSection v.createHardvardMuseumObjectRecord 0

/-! ## The screens -/

/-- `HomeViewController`: the group's results in an order of completion. -/
def HomeViewController.pages : ObservedProperty HomeViewModel
    (Except Trap (List (Option HomeHeaderCollectionViewModel × List (Option HomeCollectionCellViewModel))))
    (MuseumAPI × Equiv.Perm (Fin 3)) where
  assign := fun (api, order) v => some (v.load api order)
  display := HomeViewModel.shown

/-- `NewsViewController`, whose `setupVM` asks for page 0. -/
def NewsViewController.records :
    ObservedProperty NewsViewModel (Except Trap (List (Option NewsTableCellViewModel))) MuseumAPI where
  assign api v := some (v.load api 0)
  display := NewsViewModel.shown

/-- The collection of `RecordInformationViewController`; without a `personid` its task ends. -/
def RecordInformationViewController.objects (personid : Option Int) :
    ObservedProperty RecordInfomationViewModel (Except Trap (List (Option HomeCollectionCellViewModel)))
      MuseumAPI where
  assign api v := personid.bind fun personID =>
    match callAndParseAPI api.decodeObject (api.response (objectOfPersonRequest personID)) with
    | .ok object => some (v.getObjectAccordingToPerson (.ok object))
    | .error _ => none
  display := RecordInfomationViewModel.shown

/-- The picture and the label of `RecordInformationViewController`. -/
def RecordInformationViewController.person (personid : Option Int) :
    ObservedProperty RecordInformation (Option String × Option String) MuseumAPI where
  assign api v := personid.bind fun personID =>
    match callAndParseAPI api.decodePerson (api.response (personalInformationRequest personID)) with
    | .ok _ => some (v.getPersonalInformationModel api personID)
    | .error _ => none
  display v := (v.createImageAccordingToGender, v.createNames)

end ArtExhibition
