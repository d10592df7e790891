import ArtExhibition.Spec.UserInformation

/-!
# The user rows and the Face ID enrolment across launches

`AppDelegate.saveContext`, which `SceneDelegate.sceneDidEnterBackground` calls, saves the context that
`UserInformationViewModel` inserts its rows in, if it has changes, and ends the program where that
throws. A launch finds the persisted rows, the keychain, and the account that Firebase keeps.
-/

namespace ArtExhibition

/-- `AppDelegate.saveContext`; none where it ends in `fatalError`. -/
def UserStore.saveContext (store : UserStore) (saveThrows : Bool) : Option UserStore :=
  if store.pending.isEmpty then some store
  else if saveThrows then none
  else some ⟨store.persisted ++ store.pending, []⟩

/-- What the next launch finds. -/
def UserStore.relaunch (store : UserStore) : UserStore := ⟨store.persisted, []⟩

/-! ## The rows -/

/-- What changes the rows; a fetch does not. -/
inductive AppEvent
  | save (user : User) (saveThrows : Bool)
  | sceneDidEnterBackground (saveThrows : Bool)
  /-- the process ends, and the app is launched again -/
  | relaunch

/-- The store after an event. A program that has ended is launched again. -/
def UserStore.following (store : UserStore) : AppEvent → UserStore
  | .save user saveThrows => (store.save user saveThrows).2
  | .sceneDidEnterBackground saveThrows => (store.saveContext saveThrows).getD store.relaunch
  | .relaunch => store.relaunch

/-- The store after the events, from the first launch. -/
def UserStore.since (events : List AppEvent) : UserStore := events.foldl following ⟨[], []⟩

/-! ## The enrolment -/

/-- What happens to the app: in a process, to its scene, or to the process itself. -/
inductive LaunchEvent
  | event (e : EnrolmentEvent)
  | sceneDidEnterBackground (saveThrows : Bool)
  | relaunch

/-- `Enrolment.step` with enrolments at any time, also before `getUserInformation` has returned:
nothing in the settings screen waits for it. -/
def Enrolment.anyStep (device : Device) (s : Enrolment) : EnrolmentEvent → Option Enrolment
  | .savePasswordInKeychain password faults =>
    if s.crashed then none else
      some { s with keychain := (device.savePasswordInKeychain s.store password faults s.keychain).1 }
  | e => s.step device e

/-- **One event.** The tasks of a process end with it; a program that has ended is launched again. -/
def Enrolment.launchStep (device : Device) (s : Enrolment) : LaunchEvent → Option Enrolment
  | .event e => s.anyStep device e
  | .sceneDidEnterBackground saveThrows =>
    if s.crashed then none else
    match s.store.saveContext saveThrows with
    | some store => some { s with store := store }
    | none => some { s with crashed := true }
  | .relaunch => some { s with store := s.store.relaunch, tasks := [], crashed := false }

end ArtExhibition
