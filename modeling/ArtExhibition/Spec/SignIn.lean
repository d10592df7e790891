import ArtExhibition.Spec.AccountCreation
import ArtExhibition.Spec.UserInformation

/-!
# Signing in with a created account

`AuthenticationViewModel.logIn`, against the accounts that `createNewUserNameInFireBase` makes. What
Firebase answers is a parameter: which e-mails it takes for the same, and which sign-ins it refuses, is its
own matter. `PasswordSignIn` says what is relied on: a user comes back only for the password of the user's
account.
-/

namespace ArtExhibition

/-- `Auth.signIn(withEmail:password:)` over these accounts: the uid of the user, and the error. -/
structure PasswordSignIn where
  signIn : List AuthAccount → String → String → Option String × Option NSError
  /-- the user that comes back has an account with this password -/
  password : ∀ accounts email challenge uid, (signIn accounts email challenge).1 = some uid →
    ∃ account ∈ accounts, account.uid = uid ∧ account.password = challenge

/-- `AuthenticationViewModel.logIn`; `challenge` is its digest of the password. -/
def logIn (challenge : String → String) (auth : PasswordSignIn) (email password : String)
    (backend : Backend) : CreateResult :=
  let (authResult, error) := auth.signIn backend.accounts email (challenge password)
  (backend.await (authResultCallback authResult error) fun success => (.returned success, backend)).1

end ArtExhibition
