import ArtExhibition.Spec.Callbacks

/-!
# The loading overlay

`Loader.shared` with the six places that call `show()`: `setupUI` of the four screens that
load something, and the login and sign-up buttons. A screen's `setupVM` runs at every
appearance and starts a task that calls `hide()` at its end; the observers of the two login
screens call it in a block of the main queue.

There is a key window and nobody taps on the overlay. Whether assigning the window's
`rootViewController` takes the overlay away with the old root view (`clears`) is UIKit's.
-/

namespace ArtExhibition

/-- The screens whose `setupUI` shows the overlay. -/
inductive LoadingScreen
  | home | news | settings
  | recordInformation (personid : Option Int)
  deriving DecidableEq, Repr

/-- The end of the task of `setupVM`, with what its requests gave: whether it calls `hide()`. -/
def LoadingScreen.setupVM : LoadingScreen → Except NSError Unit → Bool
  -- the view models of the first two keep a failed response to themselves
  | .home, _ => true
  | .news, _ => true
  | .settings, .ok () => true
  | .settings, .error _ => false
  | .recordInformation none, _ => false
  -- `getPersonalInformationModel` and `getObjectAccordingToPerson` catch what they throw
  | .recordInformation (some _), _ => true

/-- What a flow is: the set-up of a screen, with its first `setupVM`; the `setupVM` of a later
appearance; or a tap on the button of the login or the sign-up screen that passed the checks. -/
inductive LoaderFlowKind
  | setUp (screen : LoadingScreen)
  | reappearance (screen : LoadingScreen)
  | authentication
  deriving DecidableEq, Repr

/-- The flow calls `show()` when it starts. -/
def LoaderFlowKind.shows : LoaderFlowKind → Bool
  | .setUp _ | .authentication => true
  | .reappearance _ => false

inductive LoaderFlowPhase
  /-- `setupUI` has run, the view has not appeared yet -/
  | loaded
  | running
  | ended
  deriving DecidableEq, Repr

structure LoaderFlow where
  kind : LoaderFlowKind
  phase : LoaderFlowPhase
  deriving DecidableEq, Repr

/-- A flow that called `show()` and has not ended. -/
def LoaderFlow.Pending (flow : LoaderFlow) : Prop :=
  flow.phase ≠ .ended ∧ flow.kind.shows = true

instance (flow : LoaderFlow) : Decidable flow.Pending := inferInstanceAs (Decidable (_ ∧ _))

structure Loader where
  /-- `blurEffectView` is a subview of the window. -/
  attached : Bool
  flows : List LoaderFlow
  /-- The blocks of the observers on the main queue, each with the new value. -/
  blocks : List Bool
  deriving DecidableEq, Repr

def Loader.launch : Loader := ⟨false, [], []⟩

def Loader.show (loader : Loader) : Loader := { loader with attached := true }

def Loader.hide (loader : Loader) : Loader := { loader with attached := false }

/-- The observer of `logInUserSuccessfully` and of `createUserSuccessfully`, with the new value. -/
def Loader.observeVM (loader : Loader) (valid : Bool) : Loader :=
  if valid then { loader with blocks := loader.blocks ++ [valid] } else loader

/-- `AppDelegate.switchToArtHomeViewController`. -/
def Loader.switchToArtHomeViewController (clears : Bool) (loader : Loader) : Loader :=
  { loader with attached := loader.attached && !clears }

inductive LoaderEvent
  | setupUI (screen : LoadingScreen)
  /-- `viewDidAppear` of the screen of a flow -/
  | setupVM (flow : Nat)
  | setupVMEnds (flow : Nat) (result : Except NSError Unit)
  | tap
  /-- The authentication call of a tap has returned or thrown; the screen may be observed still. -/
  | authenticationEnds (flow : Nat) (result : Except NSError Bool) (observed : Bool)
  /-- Another login gives the observed property a value. -/
  | otherLogin (value : Bool)
  | runBlock

def Loader.step (clears : Bool) (loader : Loader) : LoaderEvent → Option Loader
  | .setupUI screen => some { loader.show with flows := loader.flows ++ [⟨.setUp screen, .loaded⟩] }
  | .setupVM i =>
    match loader.flows[i]? with
    | some ⟨.setUp screen, .loaded⟩ =>
      some { loader with flows := loader.flows.set i ⟨.setUp screen, .running⟩ }
    | some ⟨.setUp screen, _⟩ =>
      some { loader with flows := loader.flows ++ [⟨.reappearance screen, .running⟩] }
    | _ => none
  | .setupVMEnds i result =>
    match loader.flows[i]? with
    | some ⟨.setUp screen, .running⟩ =>
      let ended := { loader with flows := loader.flows.set i ⟨.setUp screen, .ended⟩ }
      some (if screen.setupVM result then ended.hide else ended)
    | some ⟨.reappearance screen, .running⟩ =>
      let ended := { loader with flows := loader.flows.set i ⟨.reappearance screen, .ended⟩ }
      some (if screen.setupVM result then ended.hide else ended)
    | _ => none
  | .tap => some { loader.show with flows := loader.flows ++ [⟨.authentication, .running⟩] }
  | .authenticationEnds i result observed =>
    match loader.flows[i]?, result with
    | some ⟨.authentication, .running⟩, .ok value =>
      let ended := { loader with flows := loader.flows.set i ⟨.authentication, .ended⟩ }
      some (if observed then ended.observeVM value else ended)
    | some ⟨.authentication, .running⟩, .error _ =>
      some { loader with flows := loader.flows.set i ⟨.authentication, .ended⟩ }
    | _, _ => none
  | .otherLogin value => some (loader.observeVM value)
  | .runBlock =>
    match loader.blocks with
    | valid :: blocks =>
      let next := { loader with blocks := blocks }
      some (if valid then next.switchToArtHomeViewController clears else next.hide)
    | [] => none

/-- The overlay covers the screen exactly while a flow that showed it is pending. -/
def Loader.Truthful (loader : Loader) : Prop :=
  loader.attached = true ↔ ∃ flow ∈ loader.flows, flow.Pending

instance (loader : Loader) : Decidable loader.Truthful := inferInstanceAs (Decidable (_ ↔ _))

end ArtExhibition
