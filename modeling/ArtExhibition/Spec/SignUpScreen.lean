import ArtExhibition.Spec.AccountCreation

/-!
# The sign-up screen

`SignUpViewController` with its `SignUpViewModel`: taps on the sign-up button, and the tasks
that the accepted taps start. The handler of a tap runs on the main thread, one tap at a
time. `createNewAccountByEmail` runs off the main actor: its reads of the view model come
between any two statements of a handler, so both are cut into statements here.

The rule for passwords and the comparison of two texts are parameters (`SignUpRules`).
-/

namespace ArtExhibition

/-- The texts of the alerts of the sign-up screen (`LocalizableKey`). -/
inductive SignUpAlert
  | text_lack_of_username_alert | text_lack_of_password_alert | text_wrong_format_password
  | text_lack_of_password_confirmation_alert | text_differences_between_passwords
  deriving DecidableEq, Repr

/-- What the checks ask of Foundation and of Swift: whether a password matches the rule, and whether
two strings are `==`, which is canonical equivalence and not equality of the code points. -/
structure SignUpRules where
  rightFormat : String → Bool
  equal : String → String → Bool

structure SignUpViewModel where
  username : Option String
  fullname : Option String
  email : Option String
  password : Option String
  confirmationPassword : Option String
  /-- the JPEG data of the picture -/
  avatarImage : Option ByteArray

def SignUpViewModel.checkUserName (viewModel : SignUpViewModel) : Option SignUpAlert × Bool :=
  match viewModel.email with
  | some userName =>
    if userName.isEmpty then (some .text_lack_of_username_alert, false) else (none, true)
  | none => (some .text_lack_of_username_alert, false)

def SignUpViewModel.checkPassword (viewModel : SignUpViewModel) : Option SignUpAlert × Bool :=
  match viewModel.password with
  | some password =>
    if password.isEmpty then (some .text_lack_of_password_alert, false) else (none, true)
  | none => (some .text_lack_of_password_alert, false)

def SignUpViewModel.checkPasswordIsRightFormat (rightFormat : String → Bool)
    (viewModel : SignUpViewModel) : Option SignUpAlert × Bool :=
  match viewModel.password with
  | some password =>
    if password.isEmpty then (none, false)
    else if !rightFormat password then (some .text_wrong_format_password, false)
    else (none, true)
  | none => (none, false)

def SignUpViewModel.checkConfirmationPassword (equal : String → String → Bool)
    (viewModel : SignUpViewModel) : Option SignUpAlert × Bool :=
  match viewModel.confirmationPassword with
  | some confirmationPassword =>
    if confirmationPassword.isEmpty then (some .text_lack_of_password_confirmation_alert, false)
    -- a password that is nil differs from every string
    else if !viewModel.password.any (equal confirmationPassword) then
      (some .text_differences_between_passwords, false)
    else (none, true)
  | none => (some .text_lack_of_password_confirmation_alert, false)

/-! ## Taps and tasks -/

/-- The texts of the fields at a tap. -/
structure SignUpTexts where
  userName : Option String
  fullName : Option String
  email : Option String
  password : Option String
  confirmPassword : Option String
  deriving DecidableEq, Repr

/-- The statements of the handler, by the property of the view model that they assign; the
checks of the property are part of them. -/
inductive SignUpStatement
  | username | fullname | email | password | confirmationPassword
  deriving DecidableEq, Repr

/-- The task of a tap: what `createNewAccountByEmail` has read, and the numbers of the taps
that had assigned the values it read. -/
inductive SignUpTask
  | started
  | readEmail (emailTap : ℕ) (email : String)
  | readPassword (emailTap passwordTap : ℕ) (email password : String)
  | ended
  deriving DecidableEq, Repr

inductive SignUpProgress
  /-- the statement of the handler that is next -/
  | next (statement : SignUpStatement)
  /-- no network, or a check failed -/
  | refused
  /-- all checks passed -/
  | passed (task : SignUpTask)
  deriving DecidableEq, Repr

structure SignUpTap where
  texts : SignUpTexts
  progress : SignUpProgress
  deriving DecidableEq, Repr

/-- The tap passed `checkUserName`, `checkPassword`, `checkPasswordIsRightFormat` and
`checkConfirmationPassword`. -/
def SignUpTap.hasPassed (tap : SignUpTap) : Bool :=
  match tap.progress with
  | .passed _ => true
  | _ => false

/-- A call of `createNewUserNameInFireBase` by the task of a tap. -/
structure SignUpCall where
  tap : ℕ
  user : NewUser

structure SignUpScreen where
  viewModel : SignUpViewModel
  emailBottomLabel : Option SignUpAlert
  passwordBottomLabel : Option SignUpAlert
  confirmPasswordBottomLabel : Option SignUpAlert
  /-- the tap that last assigned `email` -/
  emailTap : ℕ
  /-- the tap that last assigned `password` -/
  passwordTap : ℕ
  /-- all taps; the handler of the last one may be running -/
  taps : List SignUpTap
  calls : List SignUpCall

def SignUpScreen.launch : SignUpScreen :=
  ⟨⟨none, none, none, none, none, none⟩, none, none, none, 0, 0, [], []⟩

/-- `CustomTextView.setAttributedStringForBottomLabel`: without an alert the label stays. -/
def SignUpScreen.bottomLabel (label alert : Option SignUpAlert) : Option SignUpAlert := alert <|> label

/-- Tap `i` goes on. -/
def SignUpScreen.setProgress (screen : SignUpScreen) (i : ℕ) (progress : SignUpProgress) : SignUpScreen :=
  { screen with taps := screen.taps.modify i fun tap => { tap with progress := progress } }

/-- One statement of `handleEventFromSignUpButton`, for tap `i`. -/
def SignUpScreen.handleEventFromSignUpButton (rules : SignUpRules) (screen : SignUpScreen) (i : ℕ)
    (texts : SignUpTexts) : SignUpStatement → SignUpScreen
  | .username =>
    { screen with viewModel := { screen.viewModel with username := texts.userName } }.setProgress i
      (.next .fullname)
  | .fullname =>
    { screen with viewModel := { screen.viewModel with fullname := texts.fullName } }.setProgress i
      (.next .email)
  | .email =>
    let viewModel := { screen.viewModel with email := texts.email }
    let (alertFromUserName, userNameIsValid) := viewModel.checkUserName
    { screen with
      viewModel := viewModel
      emailTap := i
      emailBottomLabel := bottomLabel screen.emailBottomLabel alertFromUserName }.setProgress i
      (if userNameIsValid then .next .password else .refused)
  | .password =>
    let viewModel := { screen.viewModel with password := texts.password }
    let (alertFromPassword, passwordIsNotEmpty) := viewModel.checkPassword
    let (alertFromWrongPassword, passwordIsRightFormat) :=
      viewModel.checkPasswordIsRightFormat rules.rightFormat
    { screen with
      viewModel := viewModel
      passwordTap := i
      passwordBottomLabel := bottomLabel (bottomLabel screen.passwordBottomLabel alertFromPassword)
        alertFromWrongPassword }.setProgress i
      (if passwordIsNotEmpty && passwordIsRightFormat then .next .confirmationPassword else .refused)
  | .confirmationPassword =>
    let viewModel := { screen.viewModel with confirmationPassword := texts.confirmPassword }
    let (alertFromConfirmationPassword, confirmationPasswordIsValid) :=
      viewModel.checkConfirmationPassword rules.equal
    { screen with
      viewModel := viewModel
      confirmPasswordBottomLabel := bottomLabel screen.confirmPasswordBottomLabel
        alertFromConfirmationPassword }.setProgress i
      (if confirmationPasswordIsValid then .passed .started else .refused)

/-- One statement of `createNewAccountByEmail`, in the task of tap `i`. -/
def SignUpScreen.createNewAccountByEmail (screen : SignUpScreen) (i : ℕ) : SignUpTask → Option SignUpScreen
  | .started =>
    match screen.viewModel.email with
    | some email => some (screen.setProgress i (.passed (.readEmail screen.emailTap email)))
    | none => some (screen.setProgress i (.passed .ended))
  | .readEmail emailTap email =>
    match screen.viewModel.password with
    | some password =>
      some (screen.setProgress i (.passed (.readPassword emailTap screen.passwordTap email password)))
    | none => some (screen.setProgress i (.passed .ended))
  | .readPassword _ _ email password =>
    let user : NewUser :=
      { email := email, password := password, fullName := screen.viewModel.fullname
        userName := screen.viewModel.username, imageData := screen.viewModel.avatarImage }
    some ({ screen with calls := screen.calls ++ [SignUpCall.mk i user] }.setProgress i (.passed .ended))
  | .ended => none

inductive SignUpEvent
  /-- a tap on the sign-up button, with the network's status -/
  | tap (satisfied : Bool) (texts : SignUpTexts)
  /-- the handler executes its next statement -/
  | handler
  /-- the task of a tap executes its next statement -/
  | task (tap : ℕ)
  | pickAvatar (image : Option ByteArray)

/-- The handler of the last tap is running. -/
def SignUpScreen.running (screen : SignUpScreen) : Option (SignUpTexts × SignUpStatement) :=
  match screen.taps.getLast? with
  | some ⟨texts, .next statement⟩ => some (texts, statement)
  | _ => none

def SignUpScreen.step (rules : SignUpRules) (screen : SignUpScreen) :
    SignUpEvent → Option SignUpScreen
  | .tap satisfied texts =>
    if screen.running.isNone then
      some { screen with
        taps := screen.taps ++ [⟨texts, if satisfied then .next .username else .refused⟩] }
    else none
  | .handler =>
    match screen.running with
    | some (texts, statement) =>
      some (screen.handleEventFromSignUpButton rules (screen.taps.length - 1) texts statement)
    | none => none
  | .task i =>
    match screen.taps[i]? with
    | some ⟨_, .passed task⟩ => screen.createNewAccountByEmail i task
    | _ => none
  | .pickAvatar image =>
    if screen.running.isNone then
      some { screen with viewModel := { screen.viewModel with avatarImage := image } }
    else none

/-- Every call has an e-mail and a password that one tap typed which passed all checks. -/
def SignUpScreen.CallsValidated (screen : SignUpScreen) : Prop :=
  ∀ call ∈ screen.calls, ∃ tap ∈ screen.taps, tap.hasPassed = true ∧
    tap.texts.email = some call.user.email ∧ tap.texts.password = some call.user.password

instance (screen : SignUpScreen) : Decidable screen.CallsValidated :=
  inferInstanceAs (Decidable (∀ call ∈ screen.calls, ∃ tap ∈ screen.taps, _))

end ArtExhibition
