import ArtExhibition.Machine.Run
import ArtExhibition.Spec.Museum

/-!
# A screen over a view model that is loaded again

What `HomeViewController`, `NewsViewController` and `RecordInformationViewController` have in
common: a load replaces the view model's data in the task that ran it, its key-value
observer queues a `reloadData` block on the main queue, and until that block runs the view
calls back with index paths of the counts it read before.
-/

namespace ArtExhibition

/-- The calls a view makes to its view model: `numberOfItemsInSection`; the header of a section;
the record for a cell, its image or a tap; the person of a tapped record. -/
inductive ViewCallback
  | numberOfItemsInSection (section_ : ℕ)
  | header (indexPath : IndexPath)
  | record (indexPath : IndexPath)
  | personID (indexPath : IndexPath)
  deriving DecidableEq, Repr

/-- A view model `V` as its screen uses it, with loads `L`. -/
structure DataSource (V L : Type) where
  launch : V
  /-- the view model after a load, and whether the load assigned its data -/
  load : V → L → V × Bool
  numberOfSections : V → ℕ
  numberOfItemsInSection : V → ℕ → Except Trap ℕ
  /-- whether a callback traps; `none` for one that the screen does not make -/
  access : V → ViewCallback → Option (Except Trap Unit)

variable {V L : Type}

/-- What `reloadData` reads: the item count of each section. -/
def DataSource.readCounts (d : DataSource V L) (v : V) : Except Trap (List ℕ) :=
  (List.range (d.numberOfSections v)).mapM (d.numberOfItemsInSection v)

/-- A callback's index path lies within the counts; a header only has a section. -/
def ViewCallback.Within (counts : List ℕ) : ViewCallback → Prop
  | .numberOfItemsInSection section_ => section_ < counts.length
  | .header indexPath => indexPath.1 < counts.length
  | .record indexPath | .personID indexPath => ∃ n ∈ counts[indexPath.1]?, indexPath.2 < n

instance (counts : List ℕ) : ∀ c : ViewCallback, Decidable (c.Within counts)
  | .numberOfItemsInSection section_ => inferInstanceAs (Decidable (section_ < counts.length))
  | .header indexPath => inferInstanceAs (Decidable (indexPath.1 < counts.length))
  | .record indexPath | .personID indexPath =>
    inferInstanceAs (Decidable (∃ n ∈ counts[indexPath.1]?, indexPath.2 < n))

structure Screen (V : Type) where
  viewModel : V
  /-- the item counts that the view read at its latest reload -/
  counts : List ℕ
  /-- the `reloadData` blocks queued on the main queue -/
  reloads : ℕ
  trapped : Bool
  deriving DecidableEq, Repr

inductive ScreenEvent (L : Type)
  | load (load : L)
  | reloadData
  | callback (callback : ViewCallback)
  deriving DecidableEq, Repr

/-- The screen before its first load: one section with one item. -/
def DataSource.start (d : DataSource V L) : Screen V := ⟨d.launch, [1], 0, false⟩

/-- **One event.** -/
def DataSource.step (d : DataSource V L) (s : Screen V) (e : ScreenEvent L) : Option (Screen V) :=
  if s.trapped then none else
  match e with
  | .load load =>
    -- the model changes here, in the load's task; `counts` only in a `reloadData`
    let (viewModel, assigned) := d.load s.viewModel load
    some { s with viewModel := viewModel, reloads := if assigned then s.reloads + 1 else s.reloads }
  | .reloadData =>
    match s.reloads, d.readCounts s.viewModel with
    | 0, _ => none
    | reloads + 1, .ok counts => some { s with counts := counts, reloads := reloads }
    | _ + 1, .error _ => some { s with trapped := true }
  | .callback callback =>
    if callback.Within s.counts then
      match d.access s.viewModel callback with
      | none => none
      | some (.ok _) => some s
      | some (.error _) => some { s with trapped := true }
    else none

/-- Whether an accessor traps. -/
def outcome {α : Type} (result : Except Trap α) : Option (Except Trap Unit) :=
  some (result.map fun _ => ())

def homeDataSource : DataSource HomeViewModel (List (Option HardvardMuseumObject)) where
  launch := ⟨[], false⟩
  load v results := (v.getHardvardMuseumObjectModel results, true)
  numberOfSections := HomeViewModel.numberOfSections
  numberOfItemsInSection := HomeViewModel.numberOfItemsInSection
  access v
    | .numberOfItemsInSection section_ => outcome (v.numberOfItemsInSection section_)
    | .header indexPath => outcome (v.createHomeHeaderCollectionViewModel indexPath)
    | .record indexPath => outcome (v.createHardvardMuseumObjectRecord indexPath)
    | .personID indexPath => outcome (v.createPersonID indexPath)

/-- A table view has one section unless told otherwise. -/
def newsDataSource : DataSource NewsViewModel (Option HardvardMuseumObject) where
  launch := ⟨none, false⟩
  load v result := (v.getHardvardMuseumObjectModel result, true)
  numberOfSections _ := 1
  numberOfItemsInSection := NewsViewModel.numberOfItemsInSection
  access v
    | .numberOfItemsInSection section_ => outcome (v.numberOfItemsInSection section_)
    | .record indexPath => outcome (v.createHardvardMuseumObjectRecord indexPath)
    | .header _ | .personID _ => none

/-- A collection view too. -/
def recordInformationDataSource :
    DataSource RecordInfomationViewModel (Except NSError (Option HardvardMuseumObject)) where
  launch := ⟨none, false⟩
  load v response := (v.getObjectAccordingToPerson response, response.isOk)
  numberOfSections _ := 1
  numberOfItemsInSection := RecordInfomationViewModel.numberOfItemsInSection
  access v
    | .numberOfItemsInSection section_ => outcome (v.numberOfItemsInSection section_)
    | .record indexPath => outcome (v.createHardvardMuseumObjectRecord indexPath)
    | .header _ | .personID _ => none

/-- The three screens. -/
inductive MuseumScreen
  | home | news | recordInformation
  deriving DecidableEq, Repr

def MuseumScreen.ViewModel : MuseumScreen → Type
  | .home => HomeViewModel
  | .news => NewsViewModel
  | .recordInformation => RecordInfomationViewModel

def MuseumScreen.Load : MuseumScreen → Type
  | .home => List (Option HardvardMuseumObject)
  | .news => Option HardvardMuseumObject
  | .recordInformation => Except NSError (Option HardvardMuseumObject)

def MuseumScreen.dataSource : ∀ screen : MuseumScreen, DataSource screen.ViewModel screen.Load
  | .home => homeDataSource
  | .news => newsDataSource
  | .recordInformation => recordInformationDataSource

end ArtExhibition
