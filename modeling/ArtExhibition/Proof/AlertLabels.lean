import ArtExhibition.Spec.AlertLabels

/-!
# Alerts match the last validation

`setAttributedStringForBottomLabel` ignores a missing text, so a check that passes does not take
away the alert of an earlier tap. On both screens a tap is a submission with such labels
(`label_logIn`, `label_signUp`), and `alerts_match_iff` follows: along any run of taps every
validated field shows the alert of a failed check, and none without one, exactly when no tap passes
all checks of a field that is showing an alert. A tap on the sign-up button ends with its handler
returned (`tapSignUpButton_returns`).
-/

namespace ArtExhibition

open Machine

variable {rules : SignUpRules}

/-! ## The handler of the sign-up button -/

section Handler

variable {screen : SignUpScreen} {texts : SignUpTexts} {progress : SignUpProgress}

/-- The last tap has these texts, and its handler has come this far. -/
def SignUpScreen.At (screen : SignUpScreen) (texts : SignUpTexts) (progress : SignUpProgress) : Prop :=
  screen.taps.getLast? = some ⟨texts, progress⟩

theorem at_setProgress {screen' : SignUpScreen} (h : screen.At texts progress)
    (htaps : screen'.taps = screen.taps) (progress' : SignUpProgress) :
    (screen'.setProgress (screen.taps.length - 1) progress').At texts progress' := by
  rw [SignUpScreen.At, List.getLast?_eq_getElem?] at h ⊢
  simp [SignUpScreen.setProgress, htaps, h]

theorem goOn_next {statement : SignUpStatement} (h : screen.At texts (.next statement)) :
    screen.goOn rules =
      screen.handleEventFromSignUpButton rules (screen.taps.length - 1) texts statement := by
  have hrunning : screen.running = some (texts, statement) := by
    rw [SignUpScreen.running, h]
  rw [SignUpScreen.goOn, SignUpScreen.step, hrunning]
  rfl

theorem running_eq_none (h : screen.At texts progress) (hend : ∀ statement, progress ≠ .next statement) :
    screen.running = none := by
  rw [SignUpScreen.running, h]
  cases progress with
  | next statement => exact absurd rfl (hend statement)
  | refused => rfl
  | passed task => rfl

/-- A handler that has returned does not go on. -/
theorem iterate_goOn_of_returned (rules : SignUpRules) (h : screen.running = none) (n : ℕ) :
    Nat.iterate (SignUpScreen.goOn rules) n screen = screen := by
  refine Function.iterate_fixed ?_ n
  rw [SignUpScreen.goOn, SignUpScreen.step, h]
  rfl

/-! ## Each statement with a check -/

/-- The rest of the handler is a submission that still has the fields `cs` to check: it returns, and
the labels are those of the submission. -/
structure SignUpScreen.Submits (rules : SignUpRules) (screen : SignUpScreen) (n : ℕ)
    (cs : List (Checked AlertField LocalizableKey)) : Prop where
  returns : SignUpScreen.running (Nat.iterate (SignUpScreen.goOn rules) n screen) = none
  label : ∀ logIn : LogInScreen,
    Screens.label ⟨logIn, Nat.iterate (SignUpScreen.goOn rules) n screen⟩ =
      submit (Screens.label ⟨logIn, screen⟩) (validated cs)

theorem bottomLabel_key (label alert : Option SignUpAlert) :
    (SignUpScreen.bottomLabel label alert).map SignUpAlert.key =
      (alert.map SignUpAlert.key <|> label.map SignUpAlert.key) := by
  cases alert <;> rfl

/-- What a statement with checks does: the checks of its field are handed to the label, and the
handler goes on to the next statement or returns. -/
structure SignUpScreen.ChecksField (rules : SignUpRules) (screen : SignUpScreen)
    (texts : SignUpTexts) (c : Checked AlertField LocalizableKey) (passed : SignUpProgress) : Prop where
  label : ∀ logIn : LogInScreen, Screens.label ⟨logIn, screen.goOn rules⟩ =
    Function.update (Screens.label ⟨logIn, screen⟩) c.field
      (handed (Screens.label ⟨logIn, screen⟩ c.field) c.checks)
  progress : (screen.goOn rules).At texts (if c.passes then passed else .refused)

/-- One statement, then the rest. -/
theorem SignUpScreen.ChecksField.submits {n : ℕ} {c : Checked AlertField LocalizableKey}
    {cs : List (Checked AlertField LocalizableKey)} (h : screen.ChecksField rules texts c progress)
    (hrest : (screen.goOn rules).At texts progress →
      (screen.goOn rules).Submits rules n cs) :
    screen.Submits rules (n + 1) (c :: cs) := by
  have hprogress := h.progress
  cases hc : c.passes with
  | true =>
    rw [hc, if_pos rfl] at hprogress
    have hsubmits := hrest hprogress
    refine ⟨hsubmits.returns, fun logIn => ?_⟩
    rw [Function.iterate_succ_apply, validated, hsubmits.label logIn, h.label logIn, hc]
    rfl
  | false =>
    have hend : ∀ statement, SignUpProgress.refused ≠ .next statement := by
      intro statement hnext
      cases hnext
    rw [hc] at hprogress
    have hreturned := running_eq_none hprogress hend
    have hstays := iterate_goOn_of_returned rules hreturned n
    refine ⟨?_, fun logIn => ?_⟩
    · rw [Function.iterate_succ_apply, hstays, hreturned]
    · rw [Function.iterate_succ_apply, hstays, validated, h.label logIn, hc]
      rfl

theorem label_setProgress (logIn : LogInScreen) (screen : SignUpScreen) (i : ℕ)
    (progress : SignUpProgress) :
    Screens.label ⟨logIn, screen.setProgress i progress⟩ = Screens.label ⟨logIn, screen⟩ := by
  funext field
  cases field <;> rfl

theorem passes_one (field : AlertField) (check : Option SignUpAlert × Bool) :
    Checked.passes ⟨field, [signUpCheck check]⟩ = check.2 :=
  Bool.and_true _

theorem checksField_email (h : screen.At texts (.next .email)) :
    screen.ChecksField rules texts ⟨.signUpEmail, [signUpCheck texts.viewModel.checkUserName]⟩
      (.next .password) := by
  constructor
  · intro logIn
    rw [goOn_next h, SignUpScreen.handleEventFromSignUpButton, label_setProgress]
    funext field
    cases field with
    | signUpEmail => exact bottomLabel_key _ _
    | _ => rfl
  · rw [goOn_next h, passes_one]
    exact at_setProgress h rfl _

theorem checksField_password (h : screen.At texts (.next .password)) :
    screen.ChecksField rules texts
      ⟨.signUpPassword, [signUpCheck texts.viewModel.checkPassword,
        signUpCheck (texts.viewModel.checkPasswordIsRightFormat rules.rightFormat)]⟩
      (.next .confirmationPassword) := by
  constructor
  · intro logIn
    rw [goOn_next h, SignUpScreen.handleEventFromSignUpButton, label_setProgress]
    funext field
    cases field with
    | signUpPassword =>
      -- two alerts for one label
      refine (bottomLabel_key _ _).trans ?_
      rw [bottomLabel_key]
      rfl
    | _ => rfl
  · have hpasses : Checked.passes ⟨AlertField.signUpPassword, [signUpCheck texts.viewModel.checkPassword,
        signUpCheck (texts.viewModel.checkPasswordIsRightFormat rules.rightFormat)]⟩ =
        (texts.viewModel.checkPassword.2 && (texts.viewModel.checkPasswordIsRightFormat rules.rightFormat).2) :=
      congrArg _ (Bool.and_true _)
    rw [goOn_next h, hpasses]
    exact at_setProgress h rfl _

theorem checksField_confirmPassword (h : screen.At texts (.next .confirmationPassword))
    (hpassword : screen.viewModel.password = texts.password) :
    screen.ChecksField rules texts
      ⟨.signUpConfirmPassword, [signUpCheck (texts.viewModel.checkConfirmationPassword rules.equal)]⟩
      (.passed .started) := by
  have hcheck : SignUpViewModel.checkConfirmationPassword rules.equal
      { screen.viewModel with confirmationPassword := texts.confirmPassword } =
      texts.viewModel.checkConfirmationPassword rules.equal := by
    simp only [SignUpViewModel.checkConfirmationPassword, hpassword]
    rfl
  constructor
  · intro logIn
    rw [goOn_next h, SignUpScreen.handleEventFromSignUpButton, hcheck, label_setProgress]
    funext field
    cases field with
    | signUpConfirmPassword => exact bottomLabel_key _ _
    | _ => rfl
  · rw [goOn_next h, SignUpScreen.handleEventFromSignUpButton, hcheck, passes_one]
    exact at_setProgress h rfl _

/-- A statement without checks. -/
theorem goOn_unchecked (rules : SignUpRules) {statement next : SignUpStatement}
    (h : screen.At texts (.next statement))
    (hnext : statement = .username ∧ next = .fullname ∨ statement = .fullname ∧ next = .email) :
    (screen.goOn rules).At texts (.next next) ∧
      ∀ logIn : LogInScreen,
        Screens.label ⟨logIn, screen.goOn rules⟩ = Screens.label ⟨logIn, screen⟩ := by
  rw [goOn_next h]
  obtain ⟨rfl, rfl⟩ | ⟨rfl, rfl⟩ := hnext
  all_goals
    refine ⟨at_setProgress h rfl _, fun logIn => ?_⟩
    rw [SignUpScreen.handleEventFromSignUpButton, label_setProgress]
    funext field
    cases field <;> rfl

/-- The statements from `email` on, one after the other. -/
theorem submits_email (rules : SignUpRules) (h : screen.At texts (.next .email)) :
    screen.Submits rules 3 ((ButtonTap.signUp texts).fields rules) := by
  refine (checksField_email h).submits fun hpasswordNext => ?_
  refine (checksField_password hpasswordNext).submits fun hconfirmNext => ?_
  have hpassword : SignUpViewModel.password ((screen.goOn rules).goOn rules).viewModel =
      texts.password := by
    rw [goOn_next hpasswordNext]
    rfl
  refine (checksField_confirmPassword hconfirmNext hpassword).submits fun hpassed => ?_
  have hend : ∀ statement, SignUpProgress.passed .started ≠ .next statement := by
    intro statement hnext
    cases hnext
  exact ⟨running_eq_none hpassed hend, fun logIn => rfl⟩

/-- A tap gets to its first check with the labels as they were. -/
theorem tapSignUpButton_eq (rules : SignUpRules) (screen : SignUpScreen) (texts : SignUpTexts) :
    ∃ atEmail : SignUpScreen, atEmail.At texts (.next .email) ∧
      (∀ logIn : LogInScreen, Screens.label ⟨logIn, atEmail⟩ = Screens.label ⟨logIn, screen⟩) ∧
      screen.tapSignUpButton rules texts = Nat.iterate (SignUpScreen.goOn rules) 3 atEmail := by
  let tapped : SignUpScreen := { screen with taps := screen.taps ++ [⟨texts, .next .username⟩] }
  have htapped : tapped.At texts (.next .username) := List.getLast?_concat
  obtain ⟨hfullname, husername_label⟩ := goOn_unchecked rules htapped (.inl ⟨rfl, rfl⟩)
  obtain ⟨hemail, hfullname_label⟩ := goOn_unchecked rules hfullname (.inr ⟨rfl, rfl⟩)
  refine ⟨(tapped.goOn rules).goOn rules, hemail, fun logIn => ?_, rfl⟩
  rw [hfullname_label, husername_label]
  funext field
  cases field <;> rfl

/-- **A tap ends**: its handler has returned. -/
theorem tapSignUpButton_returns (rules : SignUpRules) (screen : SignUpScreen) (texts : SignUpTexts) :
    (screen.tapSignUpButton rules texts).running = none := by
  obtain ⟨atEmail, hemail, -, htap⟩ := tapSignUpButton_eq rules screen texts
  rw [htap]
  exact (submits_email rules hemail).returns

end Handler

/-! ## Taps as submissions -/

theorem label_signUp (screens : Screens) (texts : SignUpTexts) :
    (screens.tap rules (.signUp texts)).label =
      submit screens.label ((ButtonTap.signUp texts).validated rules) := by
  obtain ⟨atEmail, hemail, hlabel, htap⟩ := tapSignUpButton_eq rules screens.signUp texts
  rw [Screens.tap, htap, (submits_email rules hemail).label screens.logIn, hlabel]
  rfl

/-- What a tap on the login button does to the labels. -/
theorem logIn_labels (s : LogInScreen) (emailText passwordText : Option String) :
    let typed := { LogInScreen.launch with email := emailText, password := passwordText }
    let s' := s.handleEventFromLogInButton true emailText passwordText
    s'.emailBottomLabel = setAttributedStringForBottomLabel s.emailBottomLabel typed.checkUserName.1 ∧
      s'.passwordBottomLabel = if typed.checkUserName.2 then
        setAttributedStringForBottomLabel s.passwordBottomLabel typed.checkPassword.1
      else s.passwordBottomLabel := by
  intro typed s'
  have hemail : { s with email := emailText }.checkUserName = typed.checkUserName := rfl
  simp only [s', LogInScreen.handleEventFromLogInButton, if_true, hemail]
  cases typed.checkUserName.2 with
  | false => exact ⟨rfl, rfl⟩
  | true =>
    rw [if_pos rfl, if_pos rfl]
    split <;> exact ⟨rfl, rfl⟩

theorem setAttributedString_eq (label text : Option LocalizableKey) :
    setAttributedStringForBottomLabel label text = (text <|> label) := by
  cases text <;> rfl

theorem label_logIn (screens : Screens) (emailText passwordText : Option String) :
    (screens.tap rules (.logIn emailText passwordText)).label =
      submit screens.label ((ButtonTap.logIn emailText passwordText).validated rules) := by
  obtain ⟨hemail, hpassword⟩ := logIn_labels screens.logIn emailText passwordText
  rw [ButtonTap.validated, ButtonTap.fields]
  simp only [validated, Checked.passes, List.all_cons, List.all_nil, Bool.and_true]
  generalize { LogInScreen.launch with email := emailText, password := passwordText } = typed
    at hemail hpassword ⊢
  rw [setAttributedString_eq] at hemail
  funext field
  cases hu : typed.checkUserName.2 with
  | false =>
    rw [hu, if_neg Bool.false_ne_true] at hpassword
    cases field with
    | logInEmail => exact hemail
    | logInPassword => exact hpassword
    | _ => rfl
  | true =>
    rw [hu, if_pos rfl, setAttributedString_eq] at hpassword
    rw [if_pos rfl, ite_id]
    cases field with
    | logInEmail => exact hemail
    | logInPassword => exact hpassword
    | _ => rfl

/-! ## Runs of taps -/

/-- A check that a text is there. -/
def presenceCheck {A : Type} (alert : A) (text : Option String) : Option A × Bool :=
  match text with
  | some text => if text.isEmpty then (some alert, false) else (none, true)
  | none => (some alert, false)

theorem presenceCheck_iff {A : Type} (alert : A) (text : Option String) :
    (presenceCheck alert text).2 = true ↔ (presenceCheck alert text).1 = none := by
  cases text with
  | none => simp [presenceCheck]
  | some text =>
    rw [presenceCheck]
    split <;> simp

theorem LogInScreen.checkUserName_iff (s : LogInScreen) :
    s.checkUserName.2 = true ↔ s.checkUserName.1 = none :=
  presenceCheck_iff LocalizableKey.text_lack_of_username_alert s.email

theorem LogInScreen.checkPassword_iff (s : LogInScreen) :
    s.checkPassword.2 = true ↔ s.checkPassword.1 = none :=
  presenceCheck_iff LocalizableKey.text_lack_of_password_alert s.password

theorem SignUpViewModel.checkUserName_iff (viewModel : SignUpViewModel) :
    viewModel.checkUserName.2 = true ↔ viewModel.checkUserName.1 = none :=
  presenceCheck_iff SignUpAlert.text_lack_of_username_alert viewModel.email

theorem SignUpViewModel.checkPassword_iff (viewModel : SignUpViewModel) :
    viewModel.checkPassword.2 = true ↔ viewModel.checkPassword.1 = none :=
  presenceCheck_iff SignUpAlert.text_lack_of_password_alert viewModel.password

/-- An empty password fails the second check without an alert: the first one has given it. -/
theorem SignUpViewModel.checkPasswordIsRightFormat_iff (viewModel : SignUpViewModel)
    (h : viewModel.checkPassword.2 = true) :
    (viewModel.checkPasswordIsRightFormat rules.rightFormat).2 = true ↔
      (viewModel.checkPasswordIsRightFormat rules.rightFormat).1 = none := by
  rw [SignUpViewModel.checkPassword] at h
  rw [SignUpViewModel.checkPasswordIsRightFormat]
  split at h
  · split at h
    · cases h
    · rename_i hpassword hempty
      simp only [if_neg hempty]
      split <;> simp
  · cases h

/-- A password of the right format is not empty. -/
theorem SignUpViewModel.checkPassword_of_rightFormat (viewModel : SignUpViewModel)
    (h : (viewModel.checkPasswordIsRightFormat rules.rightFormat).2 = true) :
    viewModel.checkPassword.2 = true := by
  rw [SignUpViewModel.checkPasswordIsRightFormat] at h
  rw [SignUpViewModel.checkPassword]
  split at h
  · split at h
    · cases h
    · rename_i hempty
      simp only [if_neg hempty]
  · cases h

theorem SignUpViewModel.checkConfirmationPassword_iff (viewModel : SignUpViewModel) :
    (viewModel.checkConfirmationPassword rules.equal).2 = true ↔
      (viewModel.checkConfirmationPassword rules.equal).1 = none := by
  rw [SignUpViewModel.checkConfirmationPassword]
  split
  · split
    · simp
    · split <;> simp
  · simp

theorem signUpCheck_iff {check : Option SignUpAlert × Bool} (h : check.2 = true ↔ check.1 = none) :
    (signUpCheck check).2 = true ↔ (signUpCheck check).1 = none := by
  rw [signUpCheck, Option.map_eq_none_iff]
  exact h

/-- The checks of the screens report what they find. -/
theorem fields_report (rules : SignUpRules) (tap : ButtonTap) :
    ∀ c ∈ tap.fields rules, Reports c.checks := by
  cases tap with
  | logIn emailText passwordText =>
    refine List.forall_mem_cons.2 ⟨reports_one (LogInScreen.checkUserName_iff _), ?_⟩
    exact List.forall_mem_singleton.2 (reports_one (LogInScreen.checkPassword_iff _))
  | signUp texts =>
    have hpassword := signUpCheck_iff texts.viewModel.checkPassword_iff
    refine List.forall_mem_cons.2 ⟨reports_one (signUpCheck_iff texts.viewModel.checkUserName_iff), ?_⟩
    refine List.forall_mem_cons.2 ⟨reports_two hpassword ?_ ?_, ?_⟩
    · exact fun hnotEmpty => signUpCheck_iff (texts.viewModel.checkPasswordIsRightFormat_iff hnotEmpty)
    · exact texts.viewModel.checkPassword_of_rightFormat
    · exact List.forall_mem_singleton.2
        (reports_one (signUpCheck_iff texts.viewModel.checkConfirmationPassword_iff))
  | openSignUp => exact fun c hc => by cases hc

theorem fields_nodup (rules : SignUpRules) (tap : ButtonTap) :
    ((tap.fields rules).map Checked.field).Nodup := by
  cases tap <;> simp [ButtonTap.fields]

/-- A tap that opens a screen validates nothing. -/
theorem label_tap (screens : Screens) (tap : ButtonTap) :
    ∀ c ∈ tap.validated rules, (screens.tap rules tap).label c.field =
      submit screens.label (tap.validated rules) c.field := by
  intro c hc
  cases tap with
  | logIn emailText passwordText => rw [label_logIn]
  | signUp texts => rw [label_signUp]
  | openSignUp => cases hc

/-- **One tap** leaves alerts that match it exactly when no alert shows under a field that it passes. -/
theorem alertsMatch_tap_iff (rules : SignUpRules) (screens : Screens) (tap : ButtonTap) :
    (screens.tap rules tap).AlertsMatch rules tap ↔ screens.NoStaleAlert rules tap := by
  have hsub : (tap.validated rules).Sublist (tap.fields rules) := validated_sublist _
  rw [Screens.NoStaleAlert, ← submit_matches_iff ((fields_nodup rules tap).sublist (hsub.map _))
    fun c hc => fields_report rules tap c (hsub.subset hc)]
  refine forall₂_congr fun c hc => ?_
  rw [label_tap screens tap c hc]

/-- **Alerts match the last validation** after every tap of a run exactly when no tap of the run
passes all checks of a field that an earlier tap's alert still shows under. -/
theorem alerts_match_iff (rules : SignUpRules) (taps : List ButtonTap) (screens : Screens) :
    Along (Screens.step rules)
        (fun screens tap => ∀ screens' ∈ screens.step rules tap, screens'.AlertsMatch rules tap)
        screens taps ↔
      Along (Screens.step rules) (Screens.NoStaleAlert rules) screens taps := by
  have hstep : ∀ screens tap, (∀ screens' ∈ Screens.step rules screens tap,
      screens'.AlertsMatch rules tap) ↔ screens.NoStaleAlert rules tap := by
    intro screens tap
    rw [← alertsMatch_tap_iff]
    simp [Screens.step]
  constructor
  · exact along_mono (fun screens tap => (hstep screens tap).1) taps
  · exact along_mono (fun screens tap => (hstep screens tap).2) taps

/-- The alert of an empty e-mail stays under the field when an e-mail is typed. -/
theorem alert_stays :
    ¬ ∀ (rules : SignUpRules) (taps : List ButtonTap),
      Along (Screens.step rules)
        (fun screens tap => ∀ screens' ∈ screens.step rules tap, screens'.AlertsMatch rules tap)
        .launch taps := by
  intro h
  have htwo := h ⟨fun _ => true, fun a b => a = b⟩
    [.logIn (some "") (some "secret"), .logIn (some "ann@art") (some "secret")]
  revert htwo
  decide

end ArtExhibition
