import Mathlib.Logic.Function.Basic
import ArtExhibition.Machine.Run
import ArtExhibition.Spec.Callbacks

/-!
# `createNewUserNameInFireBase` and its backend

The function makes a Firebase Auth account, uploads the picture if there is one, and writes
the `users/{uid}` document. Each of the four backend steps has an outcome of its own
(`Outcomes`); the function has no step that takes an earlier one back.

Firebase's part (`Backend.createUser`, `Backend.Permits`): an account is made exactly when
the callback has a result; its uid has had neither account nor document, its e-mail no account.
-/

namespace ArtExhibition

/-- An account of Firebase Auth. -/
structure AuthAccount where
  uid : String
  email : String
  password : String
  deriving DecidableEq, Repr

/-- The accounts and the `users/{uid}` documents. -/
structure Backend where
  accounts : List AuthAccount
  documents : String → Option Dictionary

/-- The arguments of `createNewUserNameInFireBase`; `imageData` is
`profileImage?.jpegData(compressionQuality: 0.75)`. -/
structure NewUser where
  email : String
  password : String
  fullName : Option String
  userName : Option String
  imageData : Option ByteArray

/-- What the four backend steps of one call answer. -/
structure Outcomes where
  createUser : Option String × Option NSError
  putData : Option Unit × Option NSError
  downloadURL : Option String × Option NSError
  /-- the error that `setData` throws -/
  setData : Option NSError
  deriving DecidableEq, Repr

inductive CreateResult
  | returned (success : Bool)
  | threw (error : NSError)
  /-- a forced cast failed, or Firestore was given an empty document path -/
  | trapped
  /-- the continuation is never resumed -/
  | suspended
  deriving DecidableEq, Repr

/-- `dictionary.updateValue(value, forKey: key)`. -/
def Dictionary.updateValue (dictionary : Dictionary) (value : AnyValue) (key : String) : Dictionary :=
  dictionary.filter (·.1 ≠ key) ++ [(key, value)]

/-- Firebase's part of `Auth.createUser`. -/
def Backend.createUser (backend : Backend) (email challenge : String) (authResult : Option String) :
    Backend :=
  match authResult with
  | some uid => { backend with accounts := backend.accounts ++ [⟨uid, email, challenge⟩] }
  | none => backend

/-- `Collection_User.document(userID).setData(data)`, the last step of both branches. -/
def Backend.setData (backend : Backend) (userID : String) (data : Dictionary) (error : Option NSError) :
    CreateResult × Backend :=
  if userID.isEmpty then (.trapped, backend) else
  match error with
  | some error => (.threw error, backend)
  | none =>
    (.returned true, { backend with documents := Function.update backend.documents userID (some data) })

/-- The value of an awaited continuation goes to `next`; otherwise the call ends here. -/
def Backend.await {α : Type} (backend : Backend) (effects : List (Effect α))
    (next : α → CreateResult × Backend) : CreateResult × Backend :=
  match execute effects with
  | (_, true) => (.trapped, backend)
  | (.ok value :: _, false) => next value
  | (.error error :: _, false) => (.threw error, backend)
  | ([], false) => (.suspended, backend)

/-- The effects of `putData`'s closure, with those of the nested `downloadURL` in place. -/
def uploadCallbacks (outcomes : Outcomes) : List (Effect String) :=
  (putDataCallback outcomes.putData.1 outcomes.putData.2).flatMap fun
    | .downloadURL =>
      downloadURLCallback outcomes.putData.2 outcomes.downloadURL.1 outcomes.downloadURL.2
    | effect => [effect]

/-- The document of a new user, before the picture's URL. -/
def NewUser.data (user : NewUser) (userID : String) : Dictionary :=
  [("email", .string user.email), ("fullname", .string (user.fullName.getD "")),
    ("username", .string (user.userName.getD "")), ("uid", .string userID)]

/-- `AuthenticationViewModel.createNewUserNameInFireBase`; `challenge` is its digest of the
password. -/
def createNewUserNameInFireBase (challenge : String → String) (user : NewUser) (outcomes : Outcomes)
    (backend : Backend) : CreateResult × Backend :=
  let backend := backend.createUser user.email (challenge user.password) outcomes.createUser.1
  backend.await (createUserCallback outcomes.createUser.1 outcomes.createUser.2) fun userID =>
    let data := user.data userID
    match user.imageData with
    -- without a picture the function checks the uid again, and may return `false`
    | none =>
      if !userID.isEmpty then backend.setData userID data outcomes.setData
      else (.returned false, backend)
    | some _ =>
      backend.await (uploadCallbacks outcomes) fun imageURL =>
        backend.setData userID (data.updateValue (.string imageURL) "profileImageURL") outcomes.setData

/-! ## Runs -/

structure CreateCall where
  user : NewUser
  outcomes : Outcomes

/-- Firebase makes an account only for a new uid and an e-mail without account. -/
def Backend.Permits (backend : Backend) (call : CreateCall) : Prop :=
  ∀ uid ∈ call.outcomes.createUser.1, backend.documents uid = none ∧
    ∀ account ∈ backend.accounts, account.uid ≠ uid ∧ account.email ≠ call.user.email

instance (backend : Backend) (call : CreateCall) : Decidable (backend.Permits call) :=
  inferInstanceAs (Decidable (∀ uid ∈ call.outcomes.createUser.1, backend.documents uid = none ∧
    ∀ account ∈ backend.accounts, account.uid ≠ uid ∧ account.email ≠ call.user.email))

/-- The backend, and the uids of the accounts made by the calls with the results of these. -/
structure Creation where
  backend : Backend
  made : List (String × CreateResult)

/-- **One call.** -/
def Creation.step (challenge : String → String) (s : Creation) (call : CreateCall) : Option Creation :=
  if s.backend.Permits call then
    let r := createNewUserNameInFireBase challenge call.user call.outcomes s.backend
    some ⟨r.2, s.made ++ (call.outcomes.createUser.1.map fun uid => (uid, r.1)).toList⟩
  else none

end ArtExhibition
