import Mathlib.Data.List.Sort
import Mathlib.Data.String.Basic
import ArtExhibition.Machine.Run
import ArtExhibition.Spec.Callbacks
import ArtExhibition.Spec.Keychain

/-!
# The stored user rows and the Face ID enrolment

`UserInformationViewModel` keeps `User` rows in Core Data: those persisted and those
inserted in the context and not saved yet. `SettingsViewModel.getUserInformation` saves one
for each provider of the signed-in account, and
`FaceIDPasswordViewModel.savePasswordInKeychain` takes the first row of a fetch for *the*
user. `UserInformationViewModel.delete` exists and nothing calls it.

`Enrolment.step` is the system of both: accounts sign in and out, calls of
`getUserInformation` are tasks that go on provider by provider, and enrolments come after a
call for the signed-in account has returned.
-/

namespace ArtExhibition

/-- A row of the Core Data entity `User`. -/
structure User where
  userName : Option String
  fullName : Option String
  email : Option String
  profileImage : Option ByteArray

/-- The managed object context of `UserInformationViewModel`. -/
structure UserStore where
  persisted : List User
  pending : List User

/-- `NSSortDescriptor(key: "email", ascending: true)`: missing e-mails first. -/
def User.emailAscending (a b : User) : Bool :=
  match a.email, b.email with
  | none, _ => true
  | some _, none => false
  | some a, some b => a ≤ b

/-- `UserInformationViewModel.fetch`. Pending rows are fetched too. -/
def UserStore.fetch (store : UserStore) : List User :=
  (store.persisted ++ store.pending).insertionSort fun a b => a.emailAscending b

/-- `UserInformationViewModel.save`; `saveThrows` is the outcome of `managedContext.save()`.
A row whose save failed stays in the context. -/
def UserStore.save (store : UserStore) (user : User) (saveThrows : Bool) : Bool × UserStore :=
  let inserted := store.pending ++ [user]
  if saveThrows then (false, { store with pending := inserted })
  else (true, ⟨store.persisted ++ inserted, []⟩)

/-- What throws in a `UserInformationViewModel.delete`. -/
structure DeleteFaults where
  executeThrows : Bool
  saveThrows : Bool
  performFetchThrows : Bool
  deriving DecidableEq, Repr

/-- `UserInformationViewModel.delete`. The batch request works on the persisted rows alone;
the save that follows it persists the pending ones. -/
def UserStore.delete (store : UserStore) (faults : DeleteFaults) : Bool × UserStore :=
  if faults.executeThrows then (false, store)
  else if faults.saveThrows then (false, { store with persisted := [] })
  else (!faults.performFetchThrows, ⟨store.pending, []⟩)

/-- A call of `UserInformationViewModel`, with what throws in it. A failed `performFetch` in
`fetch` ends the program, so a call of `fetch` is one that succeeds. -/
inductive UserStoreCall
  | fetch
  | save (user : User) (saveThrows : Bool)
  | delete (faults : DeleteFaults)

/-- The store after a call. -/
def UserStore.after (store : UserStore) : UserStoreCall → UserStore
  | .fetch => store
  | .save user saveThrows => (store.save user saveThrows).2
  | .delete faults => (store.delete faults).2

/-- **One call**; every call can be made in every state. -/
def UserStore.step (store : UserStore) (call : UserStoreCall) : Option UserStore :=
  some (store.after call)

/-! ## `getUserInformation` -/

structure GIDProfileData where
  email : String
  name : String
  givenName : Option String
  imageURL : Option String
  deriving DecidableEq, Repr

/-- `GIDSignIn.sharedInstance.currentUser`, as `UserModel.init(googleUser:)` reads it. -/
structure GIDCurrentUser where
  userID : Option String
  profile : Option GIDProfileData
  deriving DecidableEq, Repr

/-- `UserModel.init(googleUser:)`. -/
def UserModel.ofGoogleUser (googleUser : GIDCurrentUser) : UserModel where
  email := (googleUser.profile.map (·.email)).getD ""
  fullName := (googleUser.profile.map (·.name)).getD ""
  profileImageURL := (googleUser.profile.bind (·.imageURL)).getD ""
  userName := (googleUser.profile.bind (·.givenName)).getD ""
  uid := googleUser.userID.getD ""

/-- The row that `getUserInformation` saves, with the data of the downloaded avatar. -/
def UserModel.row (user : UserModel) (profileImage : Option ByteArray) : User where
  userName := some user.userName
  fullName := some user.fullName
  email := some user.email
  profileImage := profileImage

/-- A Firebase account: its uid, its e-mail, the ids of its linked providers. -/
structure Account where
  uid : String
  email : String
  providerData : List String
  deriving DecidableEq, Repr

def googleAuthProviderID : String := "google.com"

/-- A call of `getUserInformation`, in its loop over `providerData`. -/
inductive InformationTask
  /-- the providers that are left -/
  | looping (account : Account) (providers : List String)
  | returned (account : Account)
  /-- it threw, or its continuation is never resumed -/
  | ended
  deriving DecidableEq, Repr

/-- What one round of the loop reads. -/
structure RoundInput where
  googleUser : Option GIDCurrentUser
  snapshot : Option DocumentSnapshot
  error : Option NSError
  profileImage : Option ByteArray
  saveThrows : Bool

/-- The user that a round saves, or how the call ends in it. -/
inductive RoundResult
  | save (user : UserModel)
  | returned
  | ended
  | trapped
  deriving DecidableEq, Repr

/-- The `switch` of the loop. Any provider but Google reads the account's document. -/
def getUserInformationRound (providerID : String) (input : RoundInput) : RoundResult :=
  if providerID = googleAuthProviderID then
    match input.googleUser with
    | none => .returned
    | some googleUser => .save (.ofGoogleUser googleUser)
  else
    match execute (getDocumentCallback input.snapshot input.error) with
    | (.ok user :: _, false) => .save user
    | (_, true) => .trapped
    | (_, false) => .ended

/-! ## The system -/

structure Enrolment where
  currentUser : Option Account
  store : UserStore
  keychain : Keychain
  tasks : List InformationTask
  crashed : Bool

/-- The app at its first launch: no rows, any keychain. -/
def Enrolment.launch (keychain : Keychain) : Enrolment := ⟨none, ⟨[], []⟩, keychain, [], false⟩

inductive EnrolmentEvent
  | signIn (account : Account)
  | signOut
  | getUserInformation
  /-- task `i` goes through the next round of its loop, or returns after the last one -/
  | round (i : ℕ) (input : RoundInput)
  | savePasswordInKeychain (password : Option String) (faults : AddFaults)

/-- The manager of `FaceIDPasswordViewModel` and `LogInViewModel`. -/
def Device.firebaseKeychain (device : Device) : KeychainManager :=
  ⟨.default device (some .FirebasePassword)⟩

/-- `FaceIDPasswordViewModel.savePasswordInKeychain`: the keychain after it, and the key it
wrote the password under, if it wrote one. -/
def Device.savePasswordInKeychain (device : Device) (store : UserStore) (password : Option String)
    (faults : AddFaults) (keychain : Keychain) : Keychain × Option String :=
  match store.fetch.head?.bind User.email, password with
  | some email, some password =>
    if password.isEmpty then (keychain, none) else
      match device.firebaseKeychain.addPasswordToKeychains device email password faults keychain with
      | (.ok _, keychain) => (keychain, some email)
      | (.error _, keychain) => (keychain, none)
  | _, _ => (keychain, none)

def Enrolment.setTask (s : Enrolment) (i : ℕ) (task : InformationTask) : Enrolment :=
  { s with tasks := s.tasks.set i task }

/-- A call of `getUserInformation` has returned for the signed-in account. -/
def Enrolment.informed (s : Enrolment) : Bool :=
  s.currentUser.any fun account => .returned account ∈ s.tasks

/-- **One event.** -/
def Enrolment.step (device : Device) (s : Enrolment) (e : EnrolmentEvent) : Option Enrolment :=
  if s.crashed then none else
  match e with
  | .signIn account => some { s with currentUser := some account }
  -- nothing calls `UserInformationViewModel.delete`, so the rows stay
  | .signOut => some { s with currentUser := none }
  | .getUserInformation =>
    match s.currentUser with
    | none => some s
    | some account => some { s with tasks := s.tasks ++ [.looping account account.providerData] }
  | .round i input =>
    match s.tasks[i]? with
    | some (.looping account []) => some (s.setTask i (.returned account))
    | some (.looping account (providerID :: providers)) =>
      match getUserInformationRound providerID input with
      | .save user => some { s.setTask i (.looping account providers) with
          store := (s.store.save (user.row input.profileImage) input.saveThrows).2 }
      | .returned => some (s.setTask i (.returned account))
      | .ended => some (s.setTask i .ended)
      | .trapped => some { s with crashed := true }
    | _ => none
  | .savePasswordInKeychain password faults =>
    if s.informed then
      some { s with keychain := (device.savePasswordInKeychain s.store password faults s.keychain).1 }
    else none

end ArtExhibition
