import ArtExhibition.Machine.Labels
import ArtExhibition.Machine.Run
import ArtExhibition.Spec.LogInScreen
import ArtExhibition.Spec.SignUpScreen

/-!
# The alerts under the fields

The log-in screen and the sign-up screen under taps on their buttons, with the network satisfied.
A handler runs on the main thread from its first statement to the one it returns at, so a tap is
one step here. The sign-up button of the log-in screen opens a new sign-up screen.

`ButtonTap.fields` says which fields a tap validates, in order, and which checks it makes of each,
by the texts of the tap alone.
-/

namespace ArtExhibition

open Machine

/-- The text of an alert of the sign-up screen. -/
def SignUpAlert.key : SignUpAlert → LocalizableKey
  | .text_lack_of_username_alert => .text_lack_of_username_alert
  | .text_lack_of_password_alert => .text_lack_of_password_alert
  | .text_wrong_format_password => .text_wrong_format_password
  | .text_lack_of_password_confirmation_alert => .text_lack_of_password_confirmation_alert
  | .text_differences_between_passwords => .text_differences_between_passwords

/-- The handler goes on, if it is running. -/
def SignUpScreen.goOn (rules : SignUpRules) (screen : SignUpScreen) : SignUpScreen :=
  (screen.step rules .handler).getD screen

/-- A tap on the sign-up button, to the end of its handler: it has five statements. -/
def SignUpScreen.tapSignUpButton (rules : SignUpRules) (screen : SignUpScreen)
    (texts : SignUpTexts) : SignUpScreen :=
  Nat.iterate (goOn rules) 5 { screen with taps := screen.taps ++ [⟨texts, .next .username⟩] }

structure Screens where
  logIn : LogInScreen
  signUp : SignUpScreen

def Screens.launch : Screens := ⟨.launch, .launch⟩

inductive ButtonTap
  /-- the login button, with the texts of its fields -/
  | logIn (emailText passwordText : Option String)
  /-- the sign-up button of the sign-up screen -/
  | signUp (texts : SignUpTexts)
  /-- the sign-up button of the log-in screen -/
  | openSignUp

def Screens.tap (rules : SignUpRules) (screens : Screens) : ButtonTap → Screens
  | .logIn emailText passwordText =>
    { screens with logIn := screens.logIn.handleEventFromLogInButton true emailText passwordText }
  | .signUp texts => { screens with signUp := screens.signUp.tapSignUpButton rules texts }
  | .openSignUp => { screens with signUp := .launch }

def Screens.step (rules : SignUpRules) (screens : Screens) (tap : ButtonTap) : Option Screens :=
  some (screens.tap rules tap)

/-! ## Fields and checks -/

inductive AlertField
  | logInEmail | logInPassword
  | signUpEmail | signUpPassword | signUpConfirmPassword
  deriving DecidableEq, Repr

/-- The alert that is shown under a field. -/
def Screens.label (screens : Screens) : AlertField → Option LocalizableKey
  | .logInEmail => screens.logIn.emailBottomLabel
  | .logInPassword => screens.logIn.passwordBottomLabel
  | .signUpEmail => screens.signUp.emailBottomLabel.map SignUpAlert.key
  | .signUpPassword => screens.signUp.passwordBottomLabel.map SignUpAlert.key
  | .signUpConfirmPassword => screens.signUp.confirmPasswordBottomLabel.map SignUpAlert.key

/-- The view model with the texts of a tap. -/
def SignUpTexts.viewModel (texts : SignUpTexts) : SignUpViewModel :=
  ⟨texts.userName, texts.fullName, texts.email, texts.password, texts.confirmPassword, none⟩

/-- The outcome of a check of the sign-up screen. -/
def signUpCheck (check : Option SignUpAlert × Bool) : Option LocalizableKey × Bool :=
  (check.1.map SignUpAlert.key, check.2)

/-- The checks of a tap, field by field. -/
def ButtonTap.fields (rules : SignUpRules) : ButtonTap → List (Checked AlertField LocalizableKey)
  | .logIn emailText passwordText =>
    let s := { LogInScreen.launch with email := emailText, password := passwordText }
    [⟨.logInEmail, [s.checkUserName]⟩, ⟨.logInPassword, [s.checkPassword]⟩]
  | .signUp texts =>
    [⟨.signUpEmail, [signUpCheck texts.viewModel.checkUserName]⟩,
      ⟨.signUpPassword, [signUpCheck texts.viewModel.checkPassword,
        signUpCheck (texts.viewModel.checkPasswordIsRightFormat rules.rightFormat)]⟩,
      ⟨.signUpConfirmPassword, [signUpCheck (texts.viewModel.checkConfirmationPassword rules.equal)]⟩]
  | .openSignUp => []

/-- The tap gets to this field: it makes these checks of it. -/
def ButtonTap.validated (rules : SignUpRules) (tap : ButtonTap) :
    List (Checked AlertField LocalizableKey) :=
  Machine.validated (tap.fields rules)

/-- **Alerts match the tap**: every field that it validated shows an alert exactly when one of its
checks failed, and then that of a failed check. -/
def Screens.AlertsMatch (rules : SignUpRules) (screens : Screens) (tap : ButtonTap) : Prop :=
  ∀ c ∈ tap.validated rules, LabelMatches (screens.label c.field) c.checks

/-- No alert shows under a field whose checks the tap passes. -/
def Screens.NoStaleAlert (rules : SignUpRules) (screens : Screens) (tap : ButtonTap) : Prop :=
  ∀ c ∈ tap.validated rules, c.passes = true → screens.label c.field = none

instance (rules : SignUpRules) (screens : Screens) (tap : ButtonTap) :
    Decidable (screens.AlertsMatch rules tap) :=
  inferInstanceAs (Decidable (∀ c ∈ tap.validated rules, _))

instance (rules : SignUpRules) (screens : Screens) (tap : ButtonTap) :
    Decidable (screens.NoStaleAlert rules tap) :=
  inferInstanceAs (Decidable (∀ c ∈ tap.validated rules, _))

end ArtExhibition
