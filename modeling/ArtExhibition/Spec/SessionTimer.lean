import Mathlib.Data.Finset.Basic
import Mathlib.Data.Rat.Defs
import Mathlib.Tactic.Common

/-!
# The session time-out

Two systems. `TimeOutObservers` is who is registered for the notification "SessionTimer":
`BaseViewController` registers itself at every appearance and takes its registrations back in
`deinit`. `TimedApplication` is the clock, the run loop and the timer of `SessionTimer`, with
the events that UIKit delivers to the application object. Which class that object has depends
on `UIApplicationMain` and Info.plist; only `MyApplication` sets the timer up.

Times are in seconds.
-/

namespace ArtExhibition

/-! ## The observers -/

/-- The view controllers are numbered. -/
structure TimeOutObservers where
  /-- The selector observers of "SessionTimer", one entry for each `addObserver`. -/
  observers : List Nat
  /-- The controllers that have appeared and not disappeared since. -/
  onScreen : Finset Nat
  deriving DecidableEq

def TimeOutObservers.launch : TimeOutObservers := ⟨[], ∅⟩

/-- `observeTimer`. -/
def TimeOutObservers.observeTimer (s : TimeOutObservers) (controller : Nat) : TimeOutObservers :=
  { s with observers := s.observers ++ [controller] }

/-- `removeObserver(self, name: "SessionTimer", object: nil)`: all of the controller's entries. -/
def TimeOutObservers.removeObserver (s : TimeOutObservers) (controller : Nat) : TimeOutObservers :=
  { s with observers := s.observers.filter fun observer => observer ≠ controller }

/-- A post of "SessionTimer": the controllers whose `methodOfReceivedNotification` runs, each time
with a call of `AppDelegate.switchToLoginViewController`. -/
def TimeOutObservers.postNotification (s : TimeOutObservers) : List Nat := s.observers

inductive ViewEvent
  | viewDidAppear (controller : Nat)
  | viewWillDisappear (controller : Nat)
  | viewDidDisappear (controller : Nat)
  | deinit (controller : Nat)
  deriving DecidableEq, Repr

def TimeOutObservers.step (s : TimeOutObservers) : ViewEvent → Option TimeOutObservers
  | .viewDidAppear controller =>
    some { s.observeTimer controller with onScreen := insert controller s.onScreen }
  -- the header is emptied and the tab bar hidden
  | .viewWillDisappear _ => some s
  -- the key-value observations are invalidated, this registration is not
  | .viewDidDisappear controller => some { s with onScreen := s.onScreen.erase controller }
  -- UIKit keeps a controller that is on screen
  | .deinit controller => if controller ∈ s.onScreen then none else some (s.removeObserver controller)

/-! ## The application object -/

inductive PlistValue
  | string (value : String)
  | boolean (value : Bool)
  /-- an array or a dictionary -/
  | collection
  deriving DecidableEq, Repr

/-- Info.plist: its top-level entries. -/
def infoPlist : List (String × PlistValue) :=
  [("NSFaceIDUsageDescription", .string "Please allow FaceID permission!"),
    ("Allow Arbitrary Loads", .boolean true),
    ("CFBundleURLTypes", .collection),
    ("Camera Usage Description", .string "Please allow camera access!"),
    ("FacebookAppID", .string "421240223192947"),
    ("FacebookClientToken", .string "994121af35d157f3df11e69d54871c1e"),
    ("FacebookDisplayName", .string "Art Exhibition"),
    ("LSApplicationQueriesSchemes", .collection),
    ("Media Library Usage Description", .string "Please allow media library access!"),
    ("NSAppTransportSecurity", .collection),
    ("Photo Library Usage Description", .string "Please allow photo library access!"),
    ("UIApplicationSceneManifest", .collection)]

/-- The class of the application object. -/
inductive ApplicationClass
  | uiApplication
  | myApplication
  deriving DecidableEq, Repr

/-- `UIApplicationMain`: the named class, else the `NSPrincipalClass` of the plist, else plain
`UIApplication`. `MyApplication` is the one subclass there is. -/
def uiApplicationMain (principalClassName : Option String) (plist : List (String × PlistValue)) :
    ApplicationClass :=
  let listed := (plist.lookup "NSPrincipalClass").bind fun value =>
    match value with
    | .string name => some name
    | .boolean _ | .collection => none
  if principalClassName.or listed = some "MyApplication" then .myApplication else .uiApplication

/-- What main.swift starts. -/
def startedApplication : ApplicationClass := uiApplicationMain none infoPlist

/-! ## The timer -/

/-- `UIEvent.EventType`. -/
inductive EventType
  | touches | motion | remoteControl | presses | scroll | hover | transform
  deriving DecidableEq, Repr

/-- `UITouch.Phase`. -/
inductive TouchPhase
  | began | moved | stationary | ended | cancelled | regionEntered | regionMoved | regionExited
  deriving DecidableEq, Repr

structure UIEvent where
  type : EventType
  /-- the phases of `allTouches` -/
  allTouches : Option (List TouchPhase)
  deriving DecidableEq, Repr

/-- A touch event whose touches have all ended or been cancelled. -/
def UIEvent.AllEnded (event : UIEvent) : Prop :=
  event.type = .touches ∧ ∀ touches ∈ event.allTouches, ∀ phase ∈ touches, phase = .cancelled ∨ phase = .ended

instance (event : UIEvent) : Decidable event.AllEnded := inferInstanceAs (Decidable (_ ∧ _))

/-- The run loop's timers, with the static `SessionTimer.timer`. Timers are numbered. -/
structure SessionTimer where
  timer : Option Nat
  /-- the valid timers, each with its fire date -/
  scheduled : List (Nat × ℚ)
  /-- the number of the next timer -/
  next : Nat
  deriving DecidableEq, Repr

/-- `Timer.invalidate()`. -/
def SessionTimer.invalidate (t : SessionTimer) (timer : Nat) : SessionTimer :=
  { t with scheduled := t.scheduled.filter fun entry => entry.1 ≠ timer }

/-- `Timer.scheduledTimer(withTimeInterval: 5*60, repeats: false)`, kept in the static variable. -/
def SessionTimer.scheduledTimer (t : SessionTimer) (now : ℚ) : SessionTimer :=
  ⟨some t.next, t.scheduled ++ [(t.next, now + 5 * 60)], t.next + 1⟩

def SessionTimer.setupTimer (t : SessionTimer) (now : ℚ) : SessionTimer :=
  match t.timer with
  | some timer => (t.invalidate timer).scheduledTimer now
  | none => t.scheduledTimer now

/-- A post of the notification, by the timer or by a shake. -/
structure TimeOutPost where
  time : ℚ
  byTimer : Bool
  deriving DecidableEq, Repr

structure TimedApplication where
  now : ℚ
  session : SessionTimer
  posts : List TimeOutPost
  /-- the events delivered so far, the latest last -/
  delivered : List (ℚ × UIEvent)
  deriving DecidableEq, Repr

def TimedApplication.launch : TimedApplication := ⟨0, ⟨none, [], 0⟩, [], []⟩

inductive ApplicationEvent
  | sendEvent (event : UIEvent)
  | motionEnded (shake : Bool)
  | wait (duration : ℚ)
  | fire (timer : Nat)
  deriving DecidableEq, Repr

/-- The loop of `MyApplication.sendEvent` over the touches: `restartTimer`. -/
def restartTimer : List TouchPhase → Bool
  | [] => true
  | phase :: phases => if phase ≠ .cancelled ∧ phase ≠ .ended then false else restartTimer phases

/-- `MyApplication.sendEvent`, up to `super.sendEvent`. -/
def MyApplication.sendEvent (session : SessionTimer) (now : ℚ) (event : UIEvent) : SessionTimer :=
  if event.type ≠ .touches then session
  else if restartTimer (event.allTouches.getD []) then session.setupTimer now
  else session

/-- What the application object does with an event. -/
def ApplicationClass.sendEvent (application : ApplicationClass) (session : SessionTimer) (now : ℚ)
    (event : UIEvent) : SessionTimer :=
  match application with
  | .uiApplication => session
  | .myApplication => MyApplication.sendEvent session now event

/-- What it does when a motion has ended. -/
def ApplicationClass.motionEnded (application : ApplicationClass) (shake : Bool) : Bool :=
  match application with
  | .uiApplication => false
  | .myApplication => shake

/-- **One event.** Time does not pass a fire date, and a timer fires at its fire date. -/
def TimedApplication.step (application : ApplicationClass) (s : TimedApplication) :
    ApplicationEvent → Option TimedApplication
  | .sendEvent event => some { s with
      session := application.sendEvent s.session s.now event
      delivered := s.delivered ++ [(s.now, event)] }
  | .motionEnded shake => some
      (if application.motionEnded shake then { s with posts := s.posts ++ [⟨s.now, false⟩] } else s)
  | .wait duration =>
    if 0 < duration ∧ ∀ entry ∈ s.session.scheduled, s.now + duration ≤ entry.2 then
      some { s with now := s.now + duration }
    else none
  | .fire timer =>
    if (timer, s.now) ∈ s.session.scheduled then
      some { s with session := s.session.invalidate timer, posts := s.posts ++ [⟨s.now, true⟩] }
    else none

end ArtExhibition
