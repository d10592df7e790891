import ArtExhibition.Machine.Run
import ArtExhibition.Spec.Callbacks

/-!
# `AsyncOperation` and `DataLoadOperation`

One operation of a loading queue: its `state`, the cancellation flag, how far `start()` has
got, and its download. `start()` runs once, on a thread of the queue; `cancel()` and the
download's callback come at any time, so a step is one check or one write.

The URL session delivers the callback of a resumed task once. `cancel()` only sets the flag;
nothing cancels `downloadTask`.
-/

namespace ArtExhibition

/-- `AsyncOperation.State`. -/
inductive OperationState
  | ready | executing | finished
  deriving DecidableEq, Repr

/-- The order in which the states are meant to follow each other. -/
def OperationState.rank : OperationState → ℕ
  | .ready => 0
  | .executing => 1
  | .finished => 2

/-- How far `start()` has got. -/
inductive StartPhase
  | notStarted
  /-- past `start`'s check of `isCancelled`; `main`'s is next -/
  | checked
  /-- past `main`'s check; making and resuming the download task is next -/
  | entered
  /-- `main()` has returned; `state = .executing` is next -/
  | mainReturned
  | returned
  deriving DecidableEq, Repr

inductive DownloadPhase
  | none
  /-- resumed; its callback has not come -/
  | outstanding
  /-- in the callback, past `self.image = image`; the deferred `state = .finished` is next -/
  | storing
  /-- the callback has returned -/
  | done
  deriving DecidableEq, Repr

/-- A `DataLoadOperation`, for the images that downloads decode to. -/
structure DataLoadOperation (Image : Type) where
  state : OperationState
  isCancelled : Bool
  start : StartPhase
  download : DownloadPhase
  image : Option Image
  deriving DecidableEq, Repr

variable {Image : Type}

def DataLoadOperation.new : DataLoadOperation Image := ⟨.ready, false, .notStarted, .none, none⟩

/-- What the download's callback is given. -/
structure DownloadPayload (Image : Type) where
  url : Option String
  error : Option NSError
  /-- `UIImage(data: Data(contentsOf: url))`: nil when the file or the image cannot be read -/
  decoded : Option Image
  deriving DecidableEq, Repr

/-- The guard of the callback. -/
def DownloadPayload.decodedImage (payload : DownloadPayload Image) : Option Image :=
  match payload.error, payload.url with
  | none, some _ => payload.decoded
  | _, _ => none

inductive OperationEvent (Image : Type)
  /-- the next step of `start()` -/
  | advance
  | callback (payload : DownloadPayload Image)
  /-- the deferred `state = .finished` of the callback -/
  | finish
  | cancel
  deriving DecidableEq, Repr

/-- `start()`, one check or write at a time. -/
def DataLoadOperation.advance (o : DataLoadOperation Image) : Option (DataLoadOperation Image) :=
  match o.start with
  | .notStarted =>
    if o.isCancelled then some { o with state := .finished, start := .returned }
    else some { o with start := .checked }
  -- a cancelled `main()` returns, but `start()` goes on to `state = .executing`
  | .checked => some { o with start := if o.isCancelled then .mainReturned else .entered }
  | .entered => some { o with start := .mainReturned, download := .outstanding }
  | .mainReturned => some { o with state := .executing, start := .returned }
  | .returned => none

/-- The download's callback up to its deferred block. The guard's `return` comes before the
`defer`, so it leaves `state` as it is. -/
def DataLoadOperation.callback (o : DataLoadOperation Image) (payload : DownloadPayload Image) :
    Option (DataLoadOperation Image) :=
  match o.download, payload.decodedImage with
  | .outstanding, some image => some { o with image := some image, download := .storing }
  | .outstanding, none => some { o with download := .done }
  | _, _ => none

/-- **One event.** -/
def DataLoadOperation.step (o : DataLoadOperation Image) (e : OperationEvent Image) :
    Option (DataLoadOperation Image) :=
  match e with
  | .advance => o.advance
  | .callback payload => o.callback payload
  | .finish =>
    match o.download with
    | .storing => some { o with state := .finished, download := .done }
    | _ => none
  | .cancel => some { o with isCancelled := true }

end ArtExhibition
