import ArtExhibition.Machine.Run
import ArtExhibition.Spec.Callbacks

/-!
# Login attempts and the Firebase session

`LogInViewModel.logInBasedOn`, the `loginWith…` functions of `AuthenticationViewModel`
behind it, `firebaseLogin`, `logOut` and the session time-out, as a system: each
attempt is a task that is suspended at one of its awaits (`Phase`), and the events are
the calls, the callbacks of the SDKs and the executor's resumptions, in any order.

What is assumed of Firebase Auth is in `Session.step`: `signIn` makes the account of the
credential current (an account is made for a provider's credential nobody owns),
`user.link(with:)` gives the credential to the user it was called on and fails if another
account has it, and the current user stays until `signOut`.
-/

namespace ArtExhibition

/-- `LogInViewModel.AuthProvider`, without the presenting view controllers. -/
inductive AuthProvider
  | authEmail | authApple | authFacebook | authGoogle | authZalo
  deriving DecidableEq, Repr

/-- Where the task of a login attempt is suspended. -/
inductive Phase
  /-- the SDK of the provider has been asked -/
  | provider
  /-- the provider's continuation has been resumed; `firebaseLogin` is next -/
  | credential (c : AuthCredential)
  /-- `user.link(with:)` has been called on `user` -/
  | link (user : String) (c : AuthCredential)
  /-- `Auth.auth().signIn` has been called, with a credential or with e-mail and password -/
  | signIn (c : AuthCredential)
  /-- the awaited `true` has arrived; the assignment to `logInUserSuccessfully` is next -/
  | succeeded (c : AuthCredential)
  /-- `loginWithGoogle` returned `false` (no client id); the assignment is next -/
  | declined
  /-- assigned, thrown, or never to be resumed -/
  | ended
  deriving DecidableEq, Repr

structure Attempt where
  provider : AuthProvider
  /-- `randomNonceString()` of an Apple request -/
  nonce : String
  phase : Phase
  deriving DecidableEq, Repr

/-- The state of the app that a login reads and writes. -/
structure Session where
  /-- `Auth.auth().currentUser`, as a uid -/
  currentUser : Option String
  /-- the account that a credential identifies -/
  owner : AuthCredential → Option String
  attempts : List Attempt
  /-- the root view controller is the tab bar of the home screen -/
  homeScreen : Bool
  /-- a forced cast failed -/
  crashed : Bool

/-- The app at its launch, with whatever user and accounts are left. -/
def Session.launch (currentUser : Option String) (owner : AuthCredential → Option String) : Session :=
  ⟨currentUser, owner, [], false, false⟩

/-- What `logInBasedOn` reads at its start. -/
structure LogInInput where
  email : Option String
  password : Option String
  nonce : String
  deriving DecidableEq, Repr

/-- What a provider's callback delivers. -/
inductive ProviderPayload
  | google (user : Option GIDGoogleUser) (error : Option NSError)
  | facebook (tokenString : Option String) (user : Option LoginManagerLoginResult)
      (error : Option NSError)
  | appleAuthorization (credential : ASAuthorizationCredential)
  | appleError (error : NSError)

inductive LoginEvent
  | logInBasedOn (cases : AuthProvider) (input : LogInInput)
  | providerCallback (i : ℕ) (payload : ProviderPayload)
  /-- the executor resumes an attempt that got its credential: `firebaseLogin` runs -/
  | firebaseLogin (i : ℕ)
  | firebaseCallback (i : ℕ) (authResult : Option String) (error : Option NSError)
  /-- the executor resumes an attempt that got its result: `logInUserSuccessfully` is assigned -/
  | assign (i : ℕ)
  /-- ZaloSDK answers; `self` is the view model, captured weakly -/
  | zaloCallback (i : ℕ) (isSucess selfAlive : Bool)
  | logOut (signOutThrows : Bool)
  /-- `SessionTimer` posts its notification -/
  | sessionTimer

/-- What is fixed for the app: the Google client id and the digest of a password. -/
structure Setup where
  clientID : Option String
  challenge : String → String

/-- The first await of an attempt, if it gets to one. -/
def Setup.begin (cfg : Setup) (cases : AuthProvider) (input : LogInInput) : Phase :=
  match cases with
  | .authEmail =>
    match input.email, input.password with
    | some email, some password => .signIn (.email email (cfg.challenge password))
    | _, _ => .ended
  | .authGoogle =>
    match cfg.clientID with
    | none => .declined
    | some _ => .provider
  | .authApple | .authFacebook | .authZalo => .provider

/-- The closure that a payload runs, for the provider it belongs to. -/
def Attempt.respond (a : Attempt) : ProviderPayload → Option (List (Effect AuthCredential))
  | .google user error => if a.provider = .authGoogle then some (googleCallback user error) else none
  | .facebook tokenString user error =>
    if a.provider = .authFacebook then some (facebookCallback tokenString user error) else none
  | .appleAuthorization credential =>
    if a.provider = .authApple then some (didCompleteWithAuthorization (some a.nonce) credential)
    else none
  | .appleError error => if a.provider = .authApple then some (didCompleteWithError error) else none

/-- The phase after a closure ran: the task goes on with the value, throws, or hangs. -/
def Phase.after {α : Type} (next : α → Phase) : List (Except NSError α) → Phase
  | .ok value :: _ => next value
  | .error _ :: _ => .ended
  | [] => .ended

def Session.setPhase (s : Session) (i : ℕ) (a : Attempt) (phase : Phase) : Session :=
  { s with attempts := s.attempts.set i { a with phase := phase } }

/-- A credential is free for the account `uid`: it has no other owner. -/
def Session.free (s : Session) (c : AuthCredential) (uid : String) : Bool :=
  s.owner c = none || s.owner c = some uid

/-- Firebase's part of a successful link or sign-in. -/
def Session.own (s : Session) (c : AuthCredential) (uid : String) : Session :=
  { s with owner := Function.update s.owner c (some uid) }

/-- The end of a Firebase call on attempt `i`, after Firebase's own change. -/
def Session.firebaseReturn (s : Session) (i : ℕ) (a : Attempt) (c : AuthCredential)
    (authResult : Option String) (error : Option NSError) : Session :=
  let r := execute (authResultCallback authResult error)
  { s.setPhase i a (.after (fun success => if success then .succeeded c else .declined) r.1) with
    crashed := r.2 }

/-- **One event.** `none` when it cannot happen: the attempt is not at that await, the SDK
would break its contract, or the program has crashed. -/
def Session.step (cfg : Setup) (s : Session) (e : LoginEvent) : Option Session :=
  if s.crashed then none else
  match e with
  | .logInBasedOn cases input =>
    some { s with attempts := s.attempts ++ [⟨cases, input.nonce, cfg.begin cases input⟩] }
  | .providerCallback i payload => do
    let a ← s.attempts[i]?
    let effects ← a.respond payload
    if a.phase = .provider then
      some { s.setPhase i a (.after .credential (execute effects).1) with
        crashed := (execute effects).2 }
    else none
  | .firebaseLogin i => do
    let a ← s.attempts[i]?
    match a.phase, s.currentUser with
    -- a user left from an earlier session decides for `link`
    | .credential c, some user => some (s.setPhase i a (.link user c))
    | .credential c, none => some (s.setPhase i a (.signIn c))
    | _, _ => none
  | .firebaseCallback i authResult error => do
    let a ← s.attempts[i]?
    match a.phase, authResult, error with
    -- Firebase succeeds: its own change comes before the callback
    | .link user c, some uid, none =>
      if uid = user ∧ s.free c user then
        some ((s.own c user).firebaseReturn i a c (some uid) none)
      else none
    | .signIn c, some uid, none =>
      if s.free c uid then
        some ({ s.own c uid with currentUser := some uid }.firebaseReturn i a c (some uid) none)
      else none
    | .link _ c, authResult, error => some (s.firebaseReturn i a c authResult error)
    | .signIn c, authResult, error => some (s.firebaseReturn i a c authResult error)
    | _, _, _ => none
  | .assign i => do
    let a ← s.attempts[i]?
    match a.phase with
    | .succeeded _ => some { s.setPhase i a .ended with homeScreen := true }
    | .declined => some (s.setPhase i a .ended)
    | _ => none
  -- ZaloSDK leaves Firebase alone: no credential, no `firebaseLogin`
  | .zaloCallback i isSucess selfAlive => do
    let a ← s.attempts[i]?
    if a.provider = .authZalo ∧ a.phase = .provider then
      some { s.setPhase i a .ended with homeScreen := s.homeScreen || (isSucess && selfAlive) }
    else none
  | .logOut signOutThrows =>
    if signOutThrows then some s else some { s with currentUser := none, homeScreen := false }
  -- `methodOfReceivedNotification` shows the login screen and leaves Firebase alone
  | .sessionTimer => some { s with homeScreen := false }

end ArtExhibition
