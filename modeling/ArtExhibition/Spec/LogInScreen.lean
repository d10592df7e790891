import ArtExhibition.Spec.UserInformation
import ArtExhibition.Spec.Localizable

/-!
# E-mail logins from the login screen

`LoginViewController` with its `LogInViewModel`: taps on the login button and on the Face ID
button, the Face ID evaluations, and the tasks that call `logInBasedOn(cases: .authEmail)`.
Such a task is started by the button's handler and by the observer of `password`, whoever
assigns it: the button's handler too, or `getPasswordInKeychain` after an evaluation.

The button's handler runs to its end on the main thread. A task reads `email` and `password`
when it executes, not when it is started.
-/

namespace ArtExhibition

/-- What started a login task: a tap on the login button, by the end of its handler or by its
assignment to `password`, or the assignment after a Face ID evaluation. -/
inductive Origin
  | button (tap : ℕ)
  | passwordObserver (tap : ℕ)
  | rightFace (evaluation : ℕ)
  deriving DecidableEq, Repr

/-- A call of `Auth.auth().signIn(withEmail:password:)`; the password is sent as its digest. -/
structure SignInRequest where
  origin : Origin
  email : String
  password : String
  deriving DecidableEq, Repr

/-- The task of a tap on the Face ID button. -/
inductive Evaluation
  | evaluating
  | evaluated (success : Bool)
  /-- `didValidRightFace` is assigned; whether a stored password was found -/
  | assigned (passwordFound : Bool)
  deriving DecidableEq, Repr

structure LogInScreen where
  email : Option String
  password : Option String
  didValidRightFace : Bool
  emailBottomLabel : Option LocalizableKey
  passwordBottomLabel : Option LocalizableKey
  /-- of each tap on the login button, whether its email and its password passed the checks -/
  taps : List Bool
  /-- of each tap on the Face ID button, its evaluation -/
  evaluations : List Evaluation
  /-- the login tasks that have not executed yet -/
  tasks : List Origin
  requests : List SignInRequest
  deriving DecidableEq, Repr

def LogInScreen.launch : LogInScreen := ⟨none, none, false, none, none, [], [], [], []⟩

/-! ## `LogInViewModel` -/

def LogInScreen.checkUserName (s : LogInScreen) : Option LocalizableKey × Bool :=
  match s.email with
  | some userName =>
    if userName.isEmpty then (some .text_lack_of_username_alert, false) else (none, true)
  | none => (some .text_lack_of_username_alert, false)

def LogInScreen.checkPassword (s : LogInScreen) : Option LocalizableKey × Bool :=
  match s.password with
  | some password =>
    if password.isEmpty then (some .text_lack_of_password_alert, false) else (none, true)
  | none => (some .text_lack_of_password_alert, false)

/-- An assignment to `password`: its observer starts a task (`logInIfRightFace`). -/
def LogInScreen.setPassword (s : LogInScreen) (password : Option String) (origin : Origin) :
    LogInScreen :=
  { s with password := password, tasks := s.tasks ++ [origin] }

/-- `logInBasedOn(cases: .authEmail)`, executed by the task of this origin. -/
def LogInScreen.logInBasedOn (s : LogInScreen) (origin : Origin) : LogInScreen :=
  match s.email, s.password with
  | some email, some password => { s with requests := s.requests ++ [⟨origin, email, password⟩] }
  | _, _ => s

/-- `fetchUserInCoreData`, on the rows of its fetch. -/
def LogInScreen.fetchUserInCoreData (s : LogInScreen) (users : Option (List User)) : LogInScreen :=
  match users.bind List.head? with
  | some user => { s with email := user.email }
  | none => s

/-- `BiometricIDAuth.evaluate`, its success. -/
def evaluate (canEvaluate : Bool) (evaluatePolicy : Except NSError Bool) : Bool :=
  if canEvaluate then
    match evaluatePolicy with
    | .ok success => success
    | .error _ => false
  else false

/-- `getPasswordInKeychain`; also whether a password was found. -/
def LogInScreen.getPasswordInKeychain (device : Device) (s : LogInScreen) (origin : Origin)
    (fault : Option Int) (keychain : Keychain) : LogInScreen × Bool :=
  match s.email, s.didValidRightFace with
  | some email, true =>
    -- a key without item gives `.ok none`, which is assigned all the same
    match device.firebaseKeychain.findPasswordInKeychains device email fault keychain with
    | .ok password => (s.setPassword password origin, password.isSome)
    | .error _ => (s, false)
  | _, _ => (s, false)

/-! ## The screen -/

/-- `setAttributedStringForBottomLabel`: a label keeps its alert when there is none. -/
def setAttributedStringForBottomLabel (label text : Option LocalizableKey) : Option LocalizableKey :=
  match text with
  | none => label
  | some text => some text

/-- The end of a tap on the login button, with whether its fields passed the checks. -/
def LogInScreen.endTap (s : LogInScreen) (valid : Bool) : LogInScreen :=
  { s with taps := s.taps ++ [valid] }

/-- `handleEventFromLogInButton`; the task of the tap is started when both fields are valid. -/
def LogInScreen.handleEventFromLogInButton (s : LogInScreen) (satisfied : Bool)
    (emailText passwordText : Option String) : LogInScreen :=
  if satisfied then
    let s := { s with email := emailText }
    let (alertFromUserName, userNameIsValid) := s.checkUserName
    let s := { s with
      emailBottomLabel := setAttributedStringForBottomLabel s.emailBottomLabel alertFromUserName }
    if userNameIsValid then
      -- the assignment starts a login before `checkPassword` has looked at the password
      let s := s.setPassword passwordText (.passwordObserver s.taps.length)
      let (alertFromPassword, passwordIsValid) := s.checkPassword
      let s := { s with
        passwordBottomLabel :=
          setAttributedStringForBottomLabel s.passwordBottomLabel alertFromPassword }
      if passwordIsValid then
        let s := { s with tasks := s.tasks ++ [Origin.button s.taps.length] }
        s.endTap true
      else s.endTap false
    else s.endTap false
  else s.endTap false

inductive LogInScreenEvent
  | handleEventFromLogInButton (satisfied : Bool) (emailText passwordText : Option String)
  | handleEventFromFaceIdButton
  /-- Face ID answers -/
  | evaluate (i : ℕ) (canEvaluate : Bool) (evaluatePolicy : Except NSError Bool)
  /-- the task of an evaluation goes on: it assigns `didValidRightFace` -/
  | didValidRightFace (i : ℕ) (fault : Option Int) (keychain : Keychain)
  /-- the executor runs a login task -/
  | logInBasedOn (origin : Origin)
  | fetchUserInCoreData (users : Option (List User))

/-- **One event.** -/
def LogInScreen.step (device : Device) (s : LogInScreen) (e : LogInScreenEvent) : Option LogInScreen :=
  match e with
  | .handleEventFromLogInButton satisfied emailText passwordText =>
    some (s.handleEventFromLogInButton satisfied emailText passwordText)
  | .handleEventFromFaceIdButton => some { s with evaluations := s.evaluations ++ [.evaluating] }
  | .evaluate i canEvaluate evaluatePolicy =>
    if s.evaluations[i]? = some .evaluating then
      some { s with
        evaluations := s.evaluations.set i (.evaluated (evaluate canEvaluate evaluatePolicy)) }
    else none
  | .didValidRightFace i fault keychain =>
    match s.evaluations[i]? with
    | some (.evaluated success) =>
      let (s, passwordFound) := { s with didValidRightFace := success }.getPasswordInKeychain device
        (.rightFace i) fault keychain
      some { s with evaluations := s.evaluations.set i (.assigned passwordFound) }
    | _ => none
  | .logInBasedOn origin =>
    if origin ∈ s.tasks then some ({ s with tasks := s.tasks.erase origin }.logInBasedOn origin)
    else none
  | .fetchUserInCoreData users => some (s.fetchUserInCoreData users)

end ArtExhibition
