import Mathlib.Data.List.Basic
import Mathlib.Tactic.Common

/-!
# The callback closures behind the checked continuations

Every asynchronous bridge of the app hands a closure to an SDK and resumes a
`CheckedContinuation` inside it. A closure is modelled by the list of effects it has
on the payload it is given: what it resumes the continuation with, what it prints,
which forced casts it reaches, whether it starts a nested call. `execute` runs such a
list: a forced cast of a string literal to `Error` fails (`String` is no `Error`) and
ends the program.

The closures are those of `AuthenticationViewModel`, `AppleAuthenticationViewModel` and
`SettingsViewModel.getUserInformation`.
-/

namespace ArtExhibition

/-- An error as an SDK reports it. -/
structure NSError where
  code : Int
  deriving DecidableEq, Repr

/-- One effect of a callback closure. -/
inductive Effect (α : Type)
  /-- `Continuation.resume(returning:)` -/
  | returning (value : α)
  /-- `Continuation.resume(throwing:)` with an error of the SDK -/
  | throwing (error : NSError)
  /-- `text as! Error` -/
  | asError (text : String)
  | print (error : NSError)
  /-- `ref.downloadURL { … }`, started inside the closure of `putData` -/
  | downloadURL
  deriving DecidableEq, Repr

/-- The resumptions of the continuation that a closure makes, and whether it traps.
Nothing runs after a failed cast. -/
def execute {α : Type} : List (Effect α) → List (Except NSError α) × Bool
  | [] => ([], false)
  | .returning value :: es => (.ok value :: (execute es).1, (execute es).2)
  | .throwing error :: es => (.error error :: (execute es).1, (execute es).2)
  | .asError _ :: _ => ([], true)
  | .print _ :: es => execute es
  | .downloadURL :: es => execute es

/-! ## Payloads -/

/-- A credential made for Firebase Auth. The e-mail case is what `signIn(withEmail:password:)`
is called with. -/
inductive AuthCredential
  | email (email challenge : String)
  | google (idToken accessToken : String)
  | facebook (accessToken : String)
  | apple (idToken rawNonce : String)
  deriving DecidableEq, Repr

structure GIDAuthentication where
  idToken : Option String
  accessToken : String
  deriving DecidableEq, Repr

structure GIDGoogleUser where
  authentication : GIDAuthentication
  deriving DecidableEq, Repr

structure LoginManagerLoginResult where
  isCancelled : Bool
  deriving DecidableEq, Repr

/-- The credential of an `ASAuthorization`: an Apple ID credential or another class. -/
inductive ASAuthorizationCredential
  | appleID (identityToken : Option ByteArray)
  | other

/-- A value of a Firestore document: a string, or one that `as? String` refuses. -/
inductive AnyValue
  | string (value : String)
  | other
  deriving DecidableEq, Repr

/-- `as? String`. -/
def AnyValue.asString : AnyValue → Option String
  | .string value => some value
  | .other => none

/-- `[String: Any]`. -/
abbrev Dictionary := List (String × AnyValue)

/-- `dictionary[key] as? String ?? ""`. -/
def Dictionary.string (dictionary : Dictionary) (key : String) : String :=
  ((dictionary.lookup key).bind AnyValue.asString).getD ""

structure DocumentSnapshot where
  data : Option Dictionary
  deriving DecidableEq, Repr

structure UserModel where
  email : String
  fullName : String
  userName : String
  profileImageURL : String
  uid : String
  deriving DecidableEq, Repr

/-- `UserModel.init(dictionary:)`. -/
def UserModel.ofDictionary (dictionary : Dictionary) : UserModel where
  email := dictionary.string "email"
  fullName := dictionary.string "fullName"
  profileImageURL := dictionary.string "profileImageURL"
  userName := dictionary.string "username"
  uid := dictionary.string "uid"

/-! ## The closures -/

/-- `Auth.auth().createUser` in `createNewUserNameInFireBase`; `authResult` is the uid. -/
def createUserCallback (authResult : Option String) (error : Option NSError) : List (Effect String) :=
  match authResult, error with
  | none, some error => [.throwing error]
  | some uid, none => [.returning uid]
  | none, none => [.asError "Address encoding failed"]
  | some uid, some error => [.returning uid, .print error]

/-- `ref.putData` in `createNewUserNameInFireBase`. -/
def putDataCallback (metadata : Option Unit) (error : Option NSError) : List (Effect String) :=
  match metadata, error with
  | none, some error => [.throwing error]
  | _, none => [.downloadURL]
  | some _, some error => [.throwing error]

/-- `ref.downloadURL`, nested in the closure of `putData`. It switches on the outer
closure's `error`; its own `erro` is not read. -/
def downloadURLCallback (error : Option NSError) (url : Option String) (_erro : Option NSError) :
    List (Effect String) :=
  match url, error with
  | none, some error => [.throwing error]
  | some url, none => [.returning url]
  | none, none => [.asError "Address encoding failed"]
  | some _, some error => [.throwing error]

/-- The closure of the three Firebase sign-in calls, whose bodies are the same:
`signIn(withEmail:password:)` in `logIn`, `user.link(with:)` and `signIn(with:)` in
`firebaseLogin`. -/
def authResultCallback (authResult : Option String) (error : Option NSError) : List (Effect Bool) :=
  match authResult, error with
  | none, some error => [.throwing error]
  | some _, none => [.returning true]
  | none, none => [.asError "Address encoding failed"]
  | some _, some error => [.throwing error]

/-- `GIDSignIn.sharedInstance.signIn` in `loginWithGoogle`. -/
def googleCallback (user : Option GIDGoogleUser) (error : Option NSError) :
    List (Effect AuthCredential) :=
  match user, error with
  | none, some error => [.throwing error]
  | some user, none =>
    match user.authentication.idToken with
    | some idToken => [.returning (.google idToken user.authentication.accessToken)]
    | none => []
  -- `user?.authentication` is nil: the guard returns
  | none, none => []
  | some _, some error => [.throwing error]

/-- `loginManager.logIn` in `loginWithFacebook`; `tokenString` is `AccessToken.current?.tokenString`. -/
def facebookCallback (tokenString : Option String) (user : Option LoginManagerLoginResult)
    (error : Option NSError) : List (Effect AuthCredential) :=
  match user, error with
  | none, some error => [.throwing error]
  | user, none =>
    match tokenString, user.map (·.isCancelled) with
    | some idToken, some false => [.returning (.facebook idToken)]
    | _, _ => []
  | some _, some error => [.throwing error]

/-- `AppleAuthenticationViewModel.authorizationController(controller:didCompleteWithAuthorization:)`. -/
def didCompleteWithAuthorization (currentNonce : Option String)
    (credential : ASAuthorizationCredential) : List (Effect AuthCredential) :=
  match credential with
  | .appleID identityToken =>
    match currentNonce with
    | none =>
      [.asError "Invalid state: A login callback was received, but no login request was sent."]
    | some nonce =>
      match identityToken with
      | none => [.asError "Unable to fetch identity token"]
      | some appleIDToken =>
        match String.fromUTF8? appleIDToken with
        | none =>
          [.asError ("Unable to serialize token string from data: " ++
            toString appleIDToken.size ++ " bytes")]
        | some idTokenString => [.returning (.apple idTokenString nonce)]
  | .other => []

/-- `AppleAuthenticationViewModel.authorizationController(controller:didCompleteWithError:)`. -/
def didCompleteWithError (error : NSError) : List (Effect AuthCredential) :=
  [.throwing error]

/-- `Collection_User.document(uid).getDocument` in `getUserInformation`. -/
def getDocumentCallback (snapshot : Option DocumentSnapshot) (error : Option NSError) :
    List (Effect UserModel) :=
  match snapshot, error with
  | none, some error => [.throwing error]
  | some snapshot, none =>
    match snapshot.data with
    | some dictionary => [.returning (UserModel.ofDictionary dictionary)]
    | none => []
  | none, none => [.asError "Address encoding failed"]
  | some _, some error => [.print error]

end ArtExhibition
