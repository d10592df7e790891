import ArtExhibition.Machine.History
import ArtExhibition.Proof.EnrolmentHistory
import ArtExhibition.Spec.LogInScreen
import ArtExhibition.Spec.SavedLogin

/-!
# When a new login screen signs in with Face ID

`new_login_screen_signs_in`: after any run since the installation, Face ID on a new login screen signs in
exactly if the block of a login or of an enrolment has run, there is a least stored e-mail, and a password
was enrolled under it (or was in the keychain before the installation).

A sign-up is not enough, and an enrolment whose block has not run when the process ends is not offered
(the example).
-/

namespace ArtExhibition

open Machine

/-- The key and the password that an event stores in the keychain. -/
def Installation.stored (device : Device) (s : Installation) : InstallationEvent → List (String × String)
  | .launch e => s.app.stored device e
  | _ => []

abbrev Installation.recordedStep (device : Device) :
    Installation × List (String × String) → InstallationEvent →
      Option (Installation × List (String × String)) :=
  recorded (Installation.step device) (Installation.stored device)

/-- The block of a login or of an enrolment is among those that have run. -/
def SavedBy (es : List InstallationEvent) : Prop :=
  .drain .logInUserSuccessfully ∈ es ∨ .drain .didSavePasswordInKeychain ∈ es

variable {device : Device} {s s' : Installation} {e : InstallationEvent}

/-! ## One event -/

@[simp] theorem assigned_app (block : ObserverBlock) (newValue : Bool) :
    (s.assigned block newValue).app = s.app := by
  unfold Installation.assigned
  split <;> rfl

@[simp] theorem assigned_savedLogin (block : ObserverBlock) (newValue : Bool) :
    (s.assigned block newValue).savedLogin = s.savedLogin := by
  unfold Installation.assigned
  split <;> rfl

/-- **What one event does**: the app's own step, a block of the main queue, or an assignment. -/
theorem installation_step_cases (hs : s.step device e = some s') :
    match e with
    | .launch e => s.app.launchStep device e = some s'.app ∧ s'.savedLogin = s.savedLogin
    | .drain block => s'.app = s.app ∧ s'.savedLogin = block.assign s.savedLogin
    | .logInUserSuccessfully _ | .createUserSuccessfully _ =>
      s'.app = s.app ∧ s'.savedLogin = s.savedLogin := by
  cases e with
  | launch e =>
    cases e with
    | relaunch =>
      simp only [Installation.step, Option.map_eq_some_iff] at hs
      obtain ⟨app, happ, rfl⟩ := hs
      exact ⟨happ, rfl⟩
    | event | sceneDidEnterBackground =>
      simp only [Installation.step, Option.map_eq_some_iff] at hs
      obtain ⟨app, happ, rfl⟩ := hs
      exact ⟨happ, assigned_savedLogin _ _⟩
  | logInUserSuccessfully newValue | createUserSuccessfully newValue =>
    simp only [Installation.step, Option.ite_none_left_eq_some, Option.some.injEq] at hs
    obtain ⟨-, rfl⟩ := hs
    exact ⟨assigned_app _ _, assigned_savedLogin _ _⟩
  | drain block =>
    simp only [Installation.step, Option.ite_none_left_eq_some] at hs
    obtain ⟨-, hs⟩ := hs
    split at hs
    · cases hs
    · simp only [Option.ite_none_right_eq_some, Option.some.injEq] at hs
      obtain ⟨-, rfl⟩ := hs
      exact ⟨rfl, rfl⟩

/-- An event stores in the keychain what the app's own step stores. -/
theorem installation_step_agrees {before : String → Option String} {history : List (String × String)}
    (h : s.app.Agrees device before history) (hs : s.step device e = some s') :
    s'.app.Agrees device before (history ++ s.stored device e) := by
  have hcases := installation_step_cases hs
  cases e with
  | launch e => exact launchStep_agrees h hcases.1
  | logInUserSuccessfully | createUserSuccessfully | drain =>
    have happ : s'.app = s.app := hcases.1
    rw [show s.stored device _ = [] from rfl, List.append_nil, happ]
    exact h

/-! ## Runs -/

/-- Only true is ever saved. -/
theorem installation_step_saved (hs : s.step device e = some s') (h : s.savedLogin ≠ some false) :
    s'.savedLogin ≠ some false ∧
      (s'.savedLogin = some true ↔ s.savedLogin = some true ∨ SavedBy [e]) := by
  have hcases := installation_step_cases hs
  cases e with
  | launch | logInUserSuccessfully | createUserSuccessfully =>
    have hsame : s'.savedLogin = s.savedLogin := hcases.2
    rw [hsame]
    exact ⟨h, by simp [SavedBy]⟩
  | drain block =>
    have hassign : s'.savedLogin = block.assign s.savedLogin := hcases.2
    rw [hassign]
    cases block <;> simp [ObserverBlock.assign, SavedBy, h]

/-- **What a run saves.** -/
theorem run_saved {es : List InstallationEvent} (h : s.savedLogin ≠ some false)
    (hr : run (Installation.step device) s es = some s') :
    s'.savedLogin ≠ some false ∧ (s'.savedLogin = some true ↔ s.savedLogin = some true ∨ SavedBy es) := by
  induction es generalizing s with
  | nil =>
    obtain rfl := Option.some.inj hr
    exact ⟨h, by simp [SavedBy]⟩
  | cons e es ih =>
    obtain ⟨t, hs, hr⟩ := run_cons.1 hr
    obtain ⟨ht, htrue⟩ := installation_step_saved hs h
    obtain ⟨hs', htrue'⟩ := ih ht hr
    refine ⟨hs', ?_⟩
    rw [htrue', htrue]
    simp only [SavedBy, List.mem_cons, List.not_mem_nil, or_false]
    tauto

/-- **What the two properties say**, since the installation. -/
theorem run_savedBy {es : List InstallationEvent} {keychain : Keychain}
    (hr : run (Installation.step device) (.fresh keychain) es = some s) :
    userIsSavedLogin s.savedLogin = isSavedLogin s.savedLogin ∧
      (isSavedLogin s.savedLogin = true ↔ SavedBy es) := by
  obtain ⟨hnot, hsaved⟩ := run_saved (s := .fresh keychain) (by simp [Installation.fresh]) hr
  simp only [Installation.fresh, false_or, reduceCtorEq] at hsaved
  rw [← hsaved]
  revert hnot
  cases s.savedLogin with
  | none => simp [userIsSavedLogin, isSavedLogin]
  | some value => cases value <;> simp [userIsSavedLogin, isSavedLogin]

theorem run_installation_agrees {before : String → Option String} {es : List InstallationEvent}
    {t t' : Installation × List (String × String)} (h : t.1.app.Agrees device before t.2)
    (hr : run (Installation.recordedStep device) t es = some t') : t'.1.app.Agrees device before t'.2 := by
  refine run_inv (I := fun t => t.1.app.Agrees device before t.2) (fun t e t' h hs => ?_) es h hr
  obtain ⟨hs, hhistory⟩ := recorded_eq_some.1 hs
  rw [hhistory]
  exact installation_step_agrees h hs

/-! ## The sign-in -/

theorem loginScreen_eq (s : Installation) :
    s.loginScreen = { LogInScreen.launch with
      email := if isSavedLogin s.savedLogin then s.app.store.fetch.head?.bind User.email else none } := by
  unfold Installation.loginScreen
  split
  · unfold LogInScreen.fetchUserInCoreData
    cases hhead : s.app.store.fetch.head? <;> simp [hhead, LogInScreen.launch]
  · rfl

/-- Face ID on a login screen with an e-mail, or with none. -/
theorem run_faceID {before : String → Option String} {history : List (String × String)}
    (h : s.app.Agrees device before history) (email : Option String) :
    ∃ v v', run (LogInScreen.step device) { LogInScreen.launch with email := email } s.faceID = some v ∧
      run (LogInScreen.step device) v (v.tasks.map .logInBasedOn) = some v' ∧
      v'.requests = (email.bind fun email => (lastUnder before history email).map
        fun password => ⟨.rightFace 0, email, password⟩).toList := by
  cases email with
  | none => exact ⟨_, _, rfl, rfl, rfl⟩
  | some email =>
    have hfind := find_of_represents h.passwords email
    cases hlast : lastUnder before history email with
    | none =>
      rw [hlast] at hfind
      simp [Installation.faceID, run, LogInScreen.step, LogInScreen.launch, evaluate,
        LogInScreen.getPasswordInKeychain, hfind, LogInScreen.setPassword, LogInScreen.logInBasedOn, hlast]
    | some password =>
      rw [hlast] at hfind
      simp [Installation.faceID, run, LogInScreen.step, LogInScreen.launch, evaluate,
        LogInScreen.getPasswordInKeychain, hfind, LogInScreen.setPassword, LogInScreen.logInBasedOn, hlast]

/-- **What a new login screen signs in with**, after any run since the installation: Face ID makes at
most one request, and makes one exactly if the block of a login or of an enrolment has run; it is with the
least stored e-mail and the password last enrolled under it. The two properties over the saved entry agree
throughout. -/
theorem new_login_screen_signs_in {before : String → Option String} {keychain : Keychain}
    (hbefore : device.firebaseKeychain.Represents device keychain before) {es : List InstallationEvent}
    {history : List (String × String)}
    (h : run (Installation.recordedStep device) (.fresh keychain, []) es = some (s, history)) :
    userIsSavedLogin s.savedLogin = isSavedLogin s.savedLogin ∧
    ∃ v v', run (LogInScreen.step device) s.loginScreen s.faceID = some v ∧
      run (LogInScreen.step device) v (v.tasks.map .logInBasedOn) = some v' ∧ v'.requests.length ≤ 1 ∧
      ∀ request, request ∈ v'.requests ↔ SavedBy es ∧ IsLeast s.app.store.Email request.email ∧
        lastUnder before history request.email = some request.password ∧ request.origin = .rightFace 0 := by
  have hagrees : s.app.Agrees device before history := run_installation_agrees (launch_agrees hbefore) h
  have hboth := run_savedBy (run_recorded.1 h).1
  refine ⟨hboth.1, ?_⟩
  obtain ⟨v, v', hv, hv', hrequests⟩ := run_faceID hagrees
    (if isSavedLogin s.savedLogin then s.app.store.fetch.head?.bind User.email else none)
  rw [loginScreen_eq]
  refine ⟨v, v', hv, hv', ?_, fun request => ?_⟩
  · rw [hrequests]
    exact Option.length_toList_le
  · rw [hrequests, Option.mem_toList, ← hboth.2, ← fetch_head_email hagrees.emailed]
    simp only [Option.bind_eq_some_iff, Option.map_eq_some_iff, Option.ite_none_right_eq_some]
    constructor
    · rintro ⟨email, ⟨hsaved, hhead⟩, password, hlast, rfl⟩
      exact ⟨hsaved, hhead, hlast, rfl⟩
    · obtain ⟨origin, email, password⟩ := request
      rintro ⟨hsaved, hhead, hlast, rfl⟩
      exact ⟨email, ⟨hsaved, hhead⟩, password, hlast, rfl⟩

/-- `b@x` signs up and enrols; the block of the enrolment may run, and the app is launched again. -/
def signedUp (blockRuns : Bool) : List InstallationEvent :=
  [.createUserSuccessfully true, .drain .createUserSuccessfully] ++ enrolledB.map .launch ++
    (if blockRuns then [.drain .didSavePasswordInKeychain] else []) ++ [.launch .relaunch]

theorem new_login_screen_signs_in_enrolled :
    ∃ s, run (Installation.recordedStep someDevice) (.fresh [], []) (signedUp true) =
        some (s, [("b@x", "secret")]) ∧
      ∃ v v', run (LogInScreen.step someDevice) s.loginScreen s.faceID = some v ∧
        run (LogInScreen.step someDevice) v (v.tasks.map .logInBasedOn) = some v' ∧
        ⟨.rightFace 0, "b@x", "secret"⟩ ∈ v'.requests := by
  obtain ⟨s, h, hrows⟩ : ∃ s, run (Installation.recordedStep someDevice) (.fresh [], []) (signedUp true) =
      some (s, [("b@x", "secret")]) ∧ s.app.store.rows.map User.email = [some "b@x"] := ⟨_, rfl, rfl⟩
  have hleast : IsLeast s.app.store.Email "b@x" := isLeast_of_rows ["b@x"] hrows (by simp) (by simp)
  obtain ⟨-, v, v', hv, hv', -, hrequests⟩ := new_login_screen_signs_in (represents_nil someDevice _) h
  exact ⟨s, h, v, v', hv, hv', (hrequests _).2 ⟨.inr (by simp [signedUp]), hleast, rfl, rfl⟩⟩

/-- **An enrolment is lost to the login screen if the process ends before its block has run**: the
password is in the keychain under the only stored e-mail, and Face ID asks for nothing. -/
example :
    ∃ s, run (Installation.recordedStep someDevice) (.fresh [], []) (signedUp false) =
        some (s, [("b@x", "secret")]) ∧ s.app.store.rows.map User.email = [some "b@x"] ∧
      ∃ v, run (LogInScreen.step someDevice) s.loginScreen s.faceID = some v ∧ v.tasks = [] ∧
        v.requests = [] :=
  ⟨_, rfl, rfl, _, rfl, rfl, rfl⟩

end ArtExhibition
