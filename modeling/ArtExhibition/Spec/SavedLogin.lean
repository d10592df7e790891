import ArtExhibition.Spec.LogInScreen
import ArtExhibition.Spec.Relaunch

/-!
# The saved login, and the login screen that reads it

`UserDefaults` has one entry, `savedLogin`, for the properties `userIsSavedLogin` and `isSavedLogin`.
Blocks of the main queue assign them, queued by the observers of a login and of an enrolment; the block
of a sign-up assigns neither. Nothing clears the entry. It outlives the process, and the app's data, the
keychain apart, is gone with an installation.

A new `LoginViewController` fetches the stored user only where `isSavedLogin` says so. What else the
blocks do (the switch to the home screen, the way back to the settings) is left out.
-/

namespace ArtExhibition

/-- `UserDefaults.userIsSavedLogin`, of the entry `savedLogin`: any value counts. -/
def userIsSavedLogin (savedLogin : Option Bool) : Bool := savedLogin.isSome

/-- `UserDefaults.isSavedLogin`. -/
def isSavedLogin (savedLogin : Option Bool) : Bool := savedLogin.getD false

/-- The blocks that the observers queue, by the property observed. -/
inductive ObserverBlock
  | logInUserSuccessfully
  | createUserSuccessfully
  | didSavePasswordInKeychain
  deriving DecidableEq, Repr

/-- The entry after a block. -/
def ObserverBlock.assign (savedLogin : Option Bool) : ObserverBlock → Option Bool
  | .logInUserSuccessfully => some true
  | .didSavePasswordInKeychain => some true
  | .createUserSuccessfully => savedLogin

/-- The app since its installation. -/
structure Installation where
  app : Enrolment
  savedLogin : Option Bool
  mainQueue : List ObserverBlock

def Installation.fresh (keychain : Keychain) : Installation := ⟨.launch keychain, none, []⟩

inductive InstallationEvent
  | launch (e : LaunchEvent)
  /-- a login or a sign-up returns, and its result is assigned -/
  | logInUserSuccessfully (newValue : Bool)
  | createUserSuccessfully (newValue : Bool)
  /-- the main queue runs its first block, this one -/
  | drain (block : ObserverBlock)

/-- An assignment to an observed property; the observer's guard lets `true` through. -/
def Installation.assigned (s : Installation) (block : ObserverBlock) (newValue : Bool) : Installation :=
  if newValue then { s with mainQueue := s.mainQueue ++ [block] } else s

/-- Whether an enrolment assigns `didSavePasswordInKeychain`; a throw leaves it. -/
def Installation.savesPassword (device : Device) (s : Installation) : LaunchEvent → Bool
  | .event (.savePasswordInKeychain password faults) =>
    (device.savePasswordInKeychain s.app.store password faults s.app.keychain).2.isSome
  | _ => false

/-- **One event.** The queue ends with the process. -/
def Installation.step (device : Device) (s : Installation) : InstallationEvent → Option Installation
  | .launch .relaunch =>
    (s.app.launchStep device .relaunch).map fun app => { s with app := app, mainQueue := [] }
  | .launch e => (s.app.launchStep device e).map fun app =>
    { s.assigned .didSavePasswordInKeychain (s.savesPassword device e) with app := app }
  | .logInUserSuccessfully newValue =>
    if s.app.crashed then none else some (s.assigned .logInUserSuccessfully newValue)
  | .createUserSuccessfully newValue =>
    if s.app.crashed then none else some (s.assigned .createUserSuccessfully newValue)
  | .drain block =>
    if s.app.crashed then none else
    match s.mainQueue with
    | [] => none
    | first :: queue =>
      if first = block then some { s with savedLogin := block.assign s.savedLogin, mainQueue := queue }
      else none

/-- A new `LoginViewController`, once `checkUserDidLogInAndUpdateUI` has run. -/
def Installation.loginScreen (s : Installation) : LogInScreen :=
  if isSavedLogin s.savedLogin then LogInScreen.launch.fetchUserInCoreData (some s.app.store.fetch)
  else .launch

/-- Face ID is tapped on a new login screen, and recognises the face. -/
def Installation.faceID (s : Installation) : List LogInScreenEvent :=
  [.handleEventFromFaceIdButton, .evaluate 0 true (.ok true), .didValidRightFace 0 none s.app.keychain]

end ArtExhibition
