import Mathlib.Algebra.Order.Floor.Ring
import Mathlib.Data.Rat.Floor
import ArtExhibition.Machine.Mirror
import ArtExhibition.Spec.StreamDownload

/-!
# The downloads of `DetailedNewsViewController`

A tap on the collection starts a task: on the main thread it subscribes the controller's `percent` to
the view model's, and calls `streamDownloadImage`, which goes on in the background. The view model has
one `cancellable` for its subscription to the network manager's `byte`, the controller has one for its
own; assigning either cancels the subscription that it held. Taps may follow each other while
downloads run.

The controller's `percent` has a `willSet` that dispatches the drawing of the bar: off the main
thread, the bar may be drawn before the new value is stored. An assignment of `percent` is not
interrupted by another. `dataImage` has a `didSet`, on the main thread. The `Float`s are rationals, and
the one product of them that is shown is a parameter (`FloatProduct`).
-/

namespace ArtExhibition

open Machine Wire Networking

/-- `value * 100` of a `Float`: the product is rounded to a `Float` again. That of 1.0 is exact. -/
structure FloatProduct where
  hundredfold : ℚ → ℚ
  one : hundredfold 1 = 100

variable (floats : FloatProduct)

/-- `DetailedNewsViewModel.createPercentString`. -/
def createPercentString (value : ℚ) : String :=
  if 0 ≤ value then toString ⌊floats.hundredfold value⌋ ++ ".0%"
  -- rounding towards zero keeps the sign
  else "-" ++ toString (-⌈floats.hundredfold value⌉) ++ ".0%"

/-- The task of a tap. -/
inductive DownloadTask
  /-- it has not run yet -/
  | tapped
  /-- it has called `streamDownloadImage` -/
  | calling
  /-- the data that has arrived -/
  | streaming (accumulatorData : Bytes)
  /-- `streamDownloadImage` has returned, nil or the image of some data -/
  | returned (image : Option Bytes)
  | ended
  deriving DecidableEq, Repr

/-- The two `percent`s, and what is between them. -/
structure PercentBinding where
  /-- `percent` of the view model -/
  percent : ℚ
  /-- the controller's `cancellable` holds a subscription to it -/
  subscribed : Bool
  /-- the controller's `percent`, with the progress view and its label -/
  bar : Mirror ℚ (ℚ × String)
  /-- the new value, while `percent` is being assigned -/
  setting : Option ℚ
  deriving DecidableEq

structure DownloadScreen extends PercentBinding where
  /-- `byte` of the network manager -/
  byte : UInt8
  /-- the subscription that the view model's `cancellable` holds -/
  sink : Option ByteSink
  /-- `dataImage`, by its data, and the picture -/
  image : Mirror (Option Bytes) (Option Bytes)
  downloads : List DownloadTask
  deriving DecidableEq

/-- The screen as it is made; the picture is a placeholder. -/
def DownloadScreen.new (placeholder : Option Bytes) : DownloadScreen where
  percent := 0
  subscribed := false
  bar := ⟨0, (0, "0%"), 0, 0⟩
  setting := none
  byte := 0
  sink := none
  image := ⟨none, placeholder, 0, 0⟩
  downloads := []

/-- What the bar shows of `percent`. -/
def drawBar (percent : ℚ) : ℚ × String := (percent, createPercentString floats percent)

inductive DownloadEvent
  | didSelectItemAt
  /-- task `i` runs on the main thread, with the address of the object's first image -/
  | start (i : ℕ) (iiifbaseuri : Option String)
  /-- `streamDownloadImage` of task `i` subscribes to `byte` -/
  | subscribe (i : ℕ) (startTime now : ℚ)
  | nextByte (i : ℕ) (arrival : ByteArrival)
  /-- the response is no success -/
  | returnNil (i : ℕ)
  | failStream (i : ℕ)
  | finishStream (i : ℕ)
  /-- task `i` goes on on the main thread -/
  | resume (i : ℕ)
  /-- the rest of an assignment of `percent` -/
  | storePercent
  | drawBar
  | drawImage
  deriving DecidableEq

namespace PercentBinding

/-- `self.percent = value` of the view model, up to the `willSet` of the controller. -/
def assignPercent (b : PercentBinding) (value : ℚ) : PercentBinding :=
  if b.subscribed then { b with bar := b.bar.herald, setting := some value } else { b with percent := value }

/-- The rest of the assignment. -/
def storePercent (b : PercentBinding) (value : ℚ) : PercentBinding :=
  { b with bar := b.bar.store value, percent := value, setting := none }

/-- `cancellable = viewModel.$percent.assign(to: \.percent, on: self)`: it gets the value at once. -/
def assign (b : PercentBinding) : PercentBinding :=
  { b with bar := b.bar.herald.store b.percent, subscribed := true }

/-- `cancellable?.cancel()`. -/
def cancel (b : PercentBinding) : PercentBinding := { b with subscribed := false }

end PercentBinding

namespace DownloadScreen

def setTask (s : DownloadScreen) (i : ℕ) (task : DownloadTask) : DownloadScreen :=
  { s with downloads := s.downloads.set i task }

def withBinding (s : DownloadScreen) (binding : PercentBinding) : DownloadScreen :=
  { s with toPercentBinding := binding }

/-- The subscription receives a value of `byte`. -/
def receive (s : DownloadScreen) (sink : ByteSink) (arrival : ByteArrival) : DownloadScreen :=
  let sink := { sink with percents := [] }.receive arrival
  match sink.percents with
  | [] => { s with sink := some sink }
  | value :: _ => { s with sink := some sink }.withBinding (s.assignPercent value)

/-- **One event.** -/
def step (s : DownloadScreen) : DownloadEvent → Option DownloadScreen
  | .didSelectItemAt => some { s with downloads := s.downloads ++ [.tapped] }
  | .start i iiifbaseuri =>
    match s.downloads[i]?, s.setting with
    | some .tapped, none =>
      some ((s.withBinding s.assign).setTask i (if iiifbaseuri.isSome then .calling else .ended))
    | _, _ => none
  | .subscribe i startTime now =>
    match s.downloads[i]?, s.setting with
    | some .calling, none => some ((s.setTask i (.streaming [])).receive ⟨startTime, 0, []⟩ ⟨s.byte, now⟩)
    | _, _ => none
  | .nextByte i arrival =>
    match s.downloads[i]?, s.setting with
    | some (.streaming accumulatorData), none =>
      let s := { s with byte := arrival.byte }.setTask i (.streaming (accumulatorData ++ [arrival.byte]))
      match s.sink with
      | some sink => some (s.receive sink arrival)
      | none => some s
    | _, _ => none
  | .returnNil i =>
    match s.downloads[i]? with
    | some (.streaming []) => some (s.setTask i (.returned none))
    | _ => none
  | .failStream i =>
    match s.downloads[i]? with
    | some (.streaming _) => some (s.setTask i .ended)
    | _ => none
  | .finishStream i =>
    match s.downloads[i]?, s.setting with
    | some (.streaming accumulatorData), none =>
      -- `percent = 1.0`, then the subscription to `byte`, whosever it is, is cancelled
      some { (s.withBinding (s.assignPercent 1)).setTask i (.returned (some accumulatorData)) with
        sink := none }
    | _, _ => none
  | .resume i =>
    match s.downloads[i]?, s.setting with
    | some (.returned image), none =>
      some { (s.withBinding s.cancel).setTask i .ended with image := (s.image.store image).herald }
    | _, _ => none
  | .storePercent => s.setting.map fun value => s.withBinding (s.toPercentBinding.storePercent value)
  | .drawBar => (s.bar.refresh (ArtExhibition.drawBar floats)).map fun bar => { s with bar := bar }
  | .drawImage => (s.image.refresh id).map fun image => { s with image := image }

end DownloadScreen

end ArtExhibition
