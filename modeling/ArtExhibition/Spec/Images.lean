import Mathlib.Logic.Function.Basic
import ArtExhibition.Spec.Museum
import ArtExhibition.Spec.Operation

/-!
# Loading the images of a collection

`HomeViewController`, `RecordInformationViewController` and `NewsViewController` load the
images of their cells with the same five functions (`willDisplay`, `didEndDisplaying`,
`prefetch…`, `cancelPrefetching…`, `loadImage`) over the same three properties; they differ in
the view model's property that gives a record's image URL, which is `model` here.

A screen has its operations (those ever made, by number), the table `loadingOperations`, the
cells on screen with their index paths, the image each cell has, and the main queue's blocks
of `setupImage`. A completion block is scheduled when its operation's `state` becomes
`.finished`, and runs at any later time; the handlers run one at a time.
-/

namespace ArtExhibition

abbrev URL := String

/-- A cell object, which UIKit reuses. -/
abbrev Cell := ℕ

/-- The image of a cell. -/
inductive Picture
  /-- `UIImage(named: "signup-background")`, the image of a new cell -/
  | placeholder
  /-- the image downloaded from a URL -/
  | image (url : URL)
  /-- no image: `setupImage(image: nil)` -/
  | blank
  deriving DecidableEq, Repr

def Picture.of : Option URL → Picture
  | some url => .image url
  | none => .blank

/-- A completion block: the cell and the index path it captures. -/
structure CompletionBlock where
  cell : Cell
  indexPath : IndexPath
  deriving DecidableEq, Repr

/-- An operation on the loading queue. An image is known by the URL it was downloaded from. -/
structure LoadingOperation where
  indexPath : IndexPath
  url : URL
  operation : DataLoadOperation URL
  completionBlock : Option CompletionBlock
  /-- the completion block, once `state` has become `.finished` and before it has run -/
  scheduled : Option CompletionBlock
  deriving DecidableEq, Repr

structure ImageScreen where
  /-- the image URL of the record at an index path of the current model -/
  model : IndexPath → Option URL
  operations : List LoadingOperation
  loadingOperations : IndexPath → Option ℕ
  /-- the cells on screen -/
  displayed : List (Cell × IndexPath)
  picture : Cell → Picture
  /-- the queued blocks of `setupImage` -/
  mainQueue : List (Cell × Option URL)

/-- A screen before its first cell, over any model. -/
def ImageScreen.launch (model : IndexPath → Option URL) : ImageScreen :=
  ⟨model, [], fun _ => none, [], fun _ => .placeholder, []⟩

inductive ImageEvent
  | willDisplay (cell : Cell) (indexPath : IndexPath)
  | didEndDisplaying (cell : Cell) (indexPath : IndexPath)
  | prefetch (indexPaths : List IndexPath)
  | cancelPrefetching (indexPaths : List IndexPath)
  /-- the next step of `start()` of operation `i` -/
  | advance (i : ℕ)
  /-- the download of operation `i` calls back -/
  | callback (i : ℕ) (payload : DownloadPayload Unit)
  | finish (i : ℕ)
  /-- the scheduled completion block of operation `i` runs -/
  | completion (i : ℕ)
  /-- the main queue runs its first block -/
  | drain
  /-- the view model is loaded again -/
  | load (model : IndexPath → Option URL)

/-! ## The handlers -/

/-- `cell.setupImage(image:)`. -/
def ImageScreen.setupImage (s : ImageScreen) (cell : Cell) (image : Option URL) : ImageScreen :=
  { s with mainQueue := s.mainQueue ++ [(cell, image)] }

/-- `loadingOperations.removeValue(forKey: indexPath)`. -/
def ImageScreen.removeValue (s : ImageScreen) (indexPath : IndexPath) : ImageScreen :=
  { s with loadingOperations := Function.update s.loadingOperations indexPath none }

def ImageScreen.setOperation (s : ImageScreen) (i : ℕ) (o : LoadingOperation) : ImageScreen :=
  { s with operations := s.operations.set i o }

/-- `loadImage(at:)`. -/
def ImageScreen.loadImage (s : ImageScreen) (indexPath : IndexPath) : Option LoadingOperation :=
  (s.model indexPath).map fun url => ⟨indexPath, url, .new, none, none⟩

/-- `loadingQueue.addOperation(dataLoader)` and `loadingOperations[indexPath] = dataLoader`. -/
def ImageScreen.addOperation (s : ImageScreen) (indexPath : IndexPath) (o : LoadingOperation) :
    ImageScreen :=
  { s with
    operations := s.operations ++ [o]
    loadingOperations := Function.update s.loadingOperations indexPath (some s.operations.length) }

/-- `dataLoader.cancel()` on operation `i`, and the removal of its entry. -/
def ImageScreen.cancelAndRemove (s : ImageScreen) (i : ℕ) (indexPath : IndexPath) : ImageScreen :=
  { s with operations := s.operations.modify i fun o =>
      { o with operation := { o.operation with isCancelled := true } } }.removeValue indexPath

/-- The table's operation at an index path, with its number. -/
def ImageScreen.dataLoader (s : ImageScreen) (indexPath : IndexPath) : Option (ℕ × LoadingOperation) :=
  (s.loadingOperations indexPath).bind fun i => (s.operations[i]?).map fun o => (i, o)

/-- `willDisplay`, once the cell is on screen. -/
def ImageScreen.willDisplay (s : ImageScreen) (cell : Cell) (indexPath : IndexPath) : ImageScreen :=
  match s.dataLoader indexPath with
  | some (i, o) =>
    match o.operation.image with
    | some image => (s.setupImage cell (some image)).removeValue indexPath
    -- the new block takes the place of one for an earlier cell
    | none => s.setOperation i { o with completionBlock := some ⟨cell, indexPath⟩ }
  | none =>
    match s.loadImage indexPath with
    | some o => s.addOperation indexPath { o with completionBlock := some ⟨cell, indexPath⟩ }
    -- no URL: the cell keeps whatever it shows
    | none => s

/-- `didEndDisplaying`, once the cell is off screen. -/
def ImageScreen.didEndDisplaying (s : ImageScreen) (indexPath : IndexPath) : ImageScreen :=
  match s.loadingOperations indexPath with
  | none => s
  | some i => s.cancelAndRemove i indexPath

/-- `prefetchItemsAt`: both guards return from the loop. -/
def ImageScreen.prefetch (s : ImageScreen) : List IndexPath → ImageScreen
  | [] => s
  | indexPath :: indexPaths =>
    match s.loadingOperations indexPath, s.loadImage indexPath with
    | some _, _ => s
    | none, none => s
    | none, some o => (s.addOperation indexPath o).prefetch indexPaths

/-- `cancelPrefetchingForItemsAt`: the guard returns from the loop. -/
def ImageScreen.cancelPrefetching (s : ImageScreen) : List IndexPath → ImageScreen
  | [] => s
  | indexPath :: indexPaths =>
    match s.loadingOperations indexPath with
    | none => s
    | some i => (s.cancelAndRemove i indexPath).cancelPrefetching indexPaths

/-- One step of operation `i`; its completion block is scheduled when it becomes finished. -/
def ImageScreen.operate (s : ImageScreen) (i : ℕ) (o : LoadingOperation) (e : OperationEvent URL) :
    Option ImageScreen :=
  (o.operation.step e).map fun operation =>
    s.setOperation i { o with
      operation := operation
      scheduled := if operation.state = .finished ∧ o.operation.state ≠ .finished then
        o.completionBlock else o.scheduled }

/-- The download of `url` decodes, if at all, to the image of `url`. -/
def DownloadPayload.of (url : URL) (payload : DownloadPayload Unit) : DownloadPayload URL :=
  ⟨payload.url, payload.error, payload.decoded.map fun _ => url⟩

/-- **One event.** UIKit displays a cell at one index path at a time. -/
def ImageScreen.step (s : ImageScreen) (e : ImageEvent) : Option ImageScreen :=
  match e with
  | .willDisplay cell indexPath =>
    if ∀ d ∈ s.displayed, d.1 ≠ cell then
      some ({ s with displayed := (cell, indexPath) :: s.displayed }.willDisplay cell indexPath)
    else none
  | .didEndDisplaying cell indexPath =>
    if (cell, indexPath) ∈ s.displayed then
      some ({ s with displayed := s.displayed.erase (cell, indexPath) }.didEndDisplaying indexPath)
    else none
  | .prefetch indexPaths => some (s.prefetch indexPaths)
  | .cancelPrefetching indexPaths => some (s.cancelPrefetching indexPaths)
  | .advance i => (s.operations[i]?).bind fun o => s.operate i o .advance
  | .callback i payload =>
    (s.operations[i]?).bind fun o => s.operate i o (.callback (payload.of o.url))
  | .finish i => (s.operations[i]?).bind fun o => s.operate i o .finish
  | .completion i => do
    let o ← s.operations[i]?
    let block ← o.scheduled
    -- the entry goes by its key, whosever it is by now
    some (((s.setOperation i { o with scheduled := none }).setupImage block.cell
      o.operation.image).removeValue block.indexPath)
  | .drain =>
    match s.mainQueue with
    | [] => none
    | (cell, image) :: queue =>
      some { s with mainQueue := queue, picture := Function.update s.picture cell (.of image) }
  | .load model => some { s with model := model }

end ArtExhibition
