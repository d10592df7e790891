import ArtExhibition.Machine.Run
import ArtExhibition.Spec.Callbacks

/-!
# The asynchronous bridges of the app

All `withCheckedThrowingContinuation` calls that the login, sign-up and settings code can
have open at once, and its `DispatchGroup`s. Tasks may open bridges in any order and
number (`start`), so the order in which one function opens its own is a special case; a
bridge's SDK delivers its callback at any later time (`deliver`), once.

The delegate of an Apple request is held by `AuthenticationViewModel.delegateContinuation`
alone (`ASAuthorizationController.delegate` is weak): the next request on the same view
model replaces it, and the first request's callback then finds no delegate.
-/

namespace ArtExhibition

/-- The `withCheckedThrowingContinuation` calls, by what their closure waits for. -/
inductive Bridge
  /-- `createNewUserNameInFireBase`: `Auth.createUser` -/
  | createUser
  /-- `createNewUserNameInFireBase`: `ref.putData`, then `ref.downloadURL` -/
  | upload
  /-- `logIn`: `signIn(withEmail:)`; `firebaseLogin`: `user.link(with:)`, `signIn(with:)` -/
  | logIn | link | signIn
  | google | facebook
  /-- `loginWithApple`, by the view model it runs on, with the nonce of the request -/
  | apple (viewModel : ℕ) (currentNonce : String)
  /-- `getUserInformation`: `getDocument` -/
  | getDocument
  deriving DecidableEq, Repr

inductive Stage
  /-- the SDK has been called -/
  | asked
  /-- `putData`'s closure has called `downloadURL`; `error` is what that closure captured -/
  | askedURL (error : Option NSError)
  /-- the (last) callback has been delivered, with the error that the SDK reported, if any -/
  | delivered (reported : Option NSError)
  deriving DecidableEq, Repr

/-- A checked continuation and the resumptions it has had. -/
structure Continuation where
  bridge : Bridge
  stage : Stage
  resumes : List (Except NSError Unit)

inductive Payload
  /-- a Firebase Auth callback -/
  | authResult (authResult : Option String) (error : Option NSError)
  | putData (metadata : Option Unit) (error : Option NSError)
  | downloadURL (url : Option String) (erro : Option NSError)
  | google (user : Option GIDGoogleUser) (error : Option NSError)
  | facebook (tokenString : Option String) (user : Option LoginManagerLoginResult)
      (error : Option NSError)
  | appleAuthorization (credential : ASAuthorizationCredential)
  | appleError (error : NSError)
  | getDocument (snapshot : Option DocumentSnapshot) (error : Option NSError)

/-- The error that a payload reports. -/
def Payload.reported : Payload → Option NSError
  | .authResult _ error | .putData _ error | .google _ error | .facebook _ _ error
  | .getDocument _ error => error
  | .downloadURL _ erro => erro
  | .appleAuthorization _ => none
  | .appleError error => some error

/-- An effect without the value it returns: whom it resumes and how. -/
def Effect.erase {α : Type} : Effect α → Effect Unit
  | .returning _ => .returning ()
  | .throwing error => .throwing error
  | .asError text => .asError text
  | .print error => .print error
  | .downloadURL => .downloadURL

/-- A `DispatchGroup` call. -/
inductive GroupEffect
  | enter | leave
  deriving DecidableEq, Repr

/-- The block of `LoginViewController.checkUserDidLogInAndUpdateUI`. -/
def checkUserDidLogInBlock (isSavedLogin selfAlive : Bool) : List GroupEffect :=
  .enter :: if isSavedLogin && selfAlive then [.leave] else []

/-- The group of `AuthenticationViewModel.loginWithZalo`. -/
def loginWithZaloGroup : List GroupEffect := [.enter, .leave]

structure Bridges where
  continuations : List Continuation
  /-- `delegateContinuation` of each view model: the continuation its delegate would resume -/
  delegate : ℕ → Option ℕ
  /-- the calls made on each group -/
  groups : List (List GroupEffect)
  crashed : Bool

def Bridges.launch : Bridges := ⟨[], fun _ => none, [], false⟩

inductive BridgeEvent
  | start (bridge : Bridge)
  | deliver (i : ℕ) (payload : Payload)
  | checkUserDidLogIn (isSavedLogin selfAlive : Bool)
  | loginWithZalo

/-- What continuation `i`'s closure does with a payload: its effects, and the payload's error. `none`
if the payload is not one its SDK delivers at this stage. `delegateHeld` says whether the
delegate of an Apple request still exists. -/
def Continuation.respond (k : Continuation) (delegateHeld : Bool) (payload : Payload) :
    Option (List (Effect Unit)) :=
  match k.bridge, k.stage, payload with
  | .createUser, .asked, .authResult authResult error =>
    some ((createUserCallback authResult error).map .erase)
  | .upload, .asked, .putData metadata error => some ((putDataCallback metadata error).map .erase)
  | .upload, .askedURL error, .downloadURL url erro =>
    some ((downloadURLCallback error url erro).map .erase)
  | .logIn, .asked, .authResult authResult error
  | .link, .asked, .authResult authResult error
  | .signIn, .asked, .authResult authResult error =>
    some ((authResultCallback authResult error).map .erase)
  | .google, .asked, .google user error => some ((googleCallback user error).map .erase)
  | .facebook, .asked, .facebook tokenString user error =>
    some ((facebookCallback tokenString user error).map .erase)
  | .apple _ currentNonce, .asked, .appleAuthorization credential =>
    some (if delegateHeld then
      (didCompleteWithAuthorization (some currentNonce) credential).map .erase else [])
  | .apple _ _, .asked, .appleError error =>
    some (if delegateHeld then (didCompleteWithError error).map .erase else [])
  | .getDocument, .asked, .getDocument snapshot error =>
    some ((getDocumentCallback snapshot error).map .erase)
  | _, _, _ => none

/-- The stage after a callback: a nested call may have been started. -/
def Stage.after (effects : List (Effect Unit)) (error : Option NSError) : Stage :=
  if .downloadURL ∈ effects then .askedURL error else .delivered error

def Bridges.delegateHeld (s : Bridges) (i : ℕ) (bridge : Bridge) : Bool :=
  match bridge with
  | .apple viewModel _ => s.delegate viewModel = some i
  | _ => false

/-- **One event.** Resuming a checked continuation a second time is fatal, as a failed cast is. -/
def Bridges.step (s : Bridges) (e : BridgeEvent) : Option Bridges :=
  if s.crashed then none else
  match e with
  | .start bridge =>
    some { s with
      continuations := s.continuations ++ [⟨bridge, .asked, []⟩]
      delegate := match bridge with
        | .apple viewModel _ => Function.update s.delegate viewModel (some s.continuations.length)
        | _ => s.delegate }
  | .deliver i payload => do
    let k ← s.continuations[i]?
    let effects ← k.respond (s.delegateHeld i k.bridge) payload
    let resumes := k.resumes ++ (execute effects).1
    some { s with
      continuations := s.continuations.set i ⟨k.bridge, .after effects payload.reported, resumes⟩
      crashed := (execute effects).2 || decide (2 ≤ resumes.length) }
  | .checkUserDidLogIn isSavedLogin selfAlive =>
    some { s with groups := s.groups ++ [checkUserDidLogInBlock isSavedLogin selfAlive] }
  | .loginWithZalo => some { s with groups := s.groups ++ [loginWithZaloGroup] }

end ArtExhibition
