import Mathlib.Algebra.Order.Ring.Rat
import Mathlib.Data.Int.DivMod

/-!
# GIF expansion

`UIImage.animatedImageWithSource`: one delay for each source frame, the greatest common
divisor of the delays, and each frame repeated `delay / gcd` times. `Int` is unbounded here. The
delays in seconds are of any type of `Double`s, and their conversion to milliseconds is a parameter
(`Doubles`); the duration of the animation is the exact quotient. A division by zero and a range
whose end is below its start stop the program.
-/

namespace ArtExhibition

inductive ArithmeticTrap
  | divisionByZero
  | rangeEndsBelowStart
  deriving DecidableEq, Repr

/-- What the expansion uses of `Double`: the order of the finite ones, two literals, and
`Int(delaySeconds * 1000.0)`, which rounds the product and then drops the fraction. So a delay that
is no shorter gives no fewer milliseconds, and 0.1 gives 100. -/
structure Doubles (Double : Type) [LinearOrder Double] where
  /-- 0.0 -/
  zero : Double
  /-- 0.1 -/
  tenth : Double
  milliseconds : Double → ℤ
  monotone : ∀ delay delay' : Double, delay ≤ delay' → milliseconds delay ≤ milliseconds delay'
  milliseconds_tenth : milliseconds tenth = 100

/-- A frame of a `CGImageSource`: what `CGImageSourceCreateImageAtIndex` makes of it and the
two delays among its GIF properties, in seconds. -/
structure SourceFrame (CGImage Double : Type) where
  image : Option CGImage
  unclampedDelayTime : Double
  delayTime : Double
  deriving DecidableEq, Repr

/-- What `UIImage.animatedImage(with:duration:)` is given. -/
structure AnimatedImage (CGImage : Type) where
  images : List CGImage
  duration : ℚ
  deriving DecidableEq, Repr

namespace UIImage

variable {CGImage Double : Type} [LinearOrder Double]

def delayForImageAtIndex (doubles : Doubles Double) (frame : SourceFrame CGImage Double) : Double :=
  let delay :=
    if frame.unclampedDelayTime = doubles.zero then frame.delayTime else frame.unclampedDelayTime
  if delay < doubles.tenth then doubles.tenth else delay

/-- The loop of `gcdForPair`. -/
def gcdLoop (a b : ℤ) : Except ArithmeticTrap ℤ :=
  if _ : b = 0 then
    .error .divisionByZero
  else
    let rest := a.tmod b
    if rest = 0 then .ok b else gcdLoop b rest
termination_by b.natAbs
decreasing_by
  rw [Int.natAbs_tmod]
  exact Nat.mod_lt _ (Int.natAbs_pos.mpr ‹_›)

def gcdForPair : Option ℤ → Option ℤ → Except ArithmeticTrap ℤ
  | none, some b => .ok b
  | some a, none => .ok a
  | none, none => .ok 0
  | some a, some b => if a < b then gcdLoop b a else gcdLoop a b

def gcdForArray : List ℤ → Except ArithmeticTrap ℤ
  | [] => .ok 1
  | first :: rest => (first :: rest).foldlM (fun gcd val => gcdForPair (some val) (some gcd)) first

/-- `for _ in 0..<frameCount { frames.append(frame) }`, the frames it appends. -/
def repeated (frame : CGImage) (frameCount : ℤ) : Except ArithmeticTrap (List CGImage) :=
  if frameCount < 0 then .error .rangeEndsBelowStart else .ok (List.replicate frameCount.toNat frame)

/-- `delays[i] / gcd`. -/
def quotient (delay gcd : ℤ) : Except ArithmeticTrap ℤ :=
  if gcd = 0 then .error .divisionByZero else .ok (delay.tdiv gcd)

/-- The element of `delays` for a frame. -/
def delay (doubles : Doubles Double) (frame : SourceFrame CGImage Double) : ℤ :=
  doubles.milliseconds (delayForImageAtIndex doubles frame)

def animatedImageWithSource (doubles : Doubles Double) (source : List (SourceFrame CGImage Double)) :
    Except ArithmeticTrap (Option (AnimatedImage CGImage)) :=
  match source.mapM SourceFrame.image with
  | none => .ok none
  | some images => do
    let delays := source.map (delay doubles)
    let duration := delays.sum
    let gcd ← gcdForArray delays
    let frames ← (images.zip delays).mapM fun (frame, delay) => do
      repeated frame (← quotient delay gcd)
    .ok (some ⟨frames.flatten, duration / 1000⟩)

end UIImage

end ArtExhibition
