import ArtExhibition.Proof.LogInScreen
import ArtExhibition.Proof.SavedLogin

/-!
# What Face ID can sign in with

A login screen on which no tap on the login button gets past the check of the network: the stored user
is fetched at some time or never, and Face ID is tapped any number of times, with any answers and any
faults of the keychain. Its tasks run in any order.

* `faceID_signs_in`: each request is that of a recognised face, which has no other, and is with the least
  stored e-mail and the password last enrolled under it.
* `larger_enrolments_lost`: from when an e-mail is stored, no entry made before under a larger one is ever
  used again; unless a relaunch comes before the e-mail's row is saved, which brings them back (the
  example).
-/

namespace ArtExhibition

open Machine

/-- What can happen on such a screen of the app in this state. -/
def Installation.Allows (s : Installation) : LogInScreenEvent → Prop
  | .handleEventFromLogInButton satisfied _ _ => satisfied = false
  | .fetchUserInCoreData users => isSavedLogin s.savedLogin = true ∧ users = some s.app.store.fetch
  | .didValidRightFace _ _ keychain => keychain = s.app.keychain
  | .handleEventFromFaceIdButton | .evaluate .. | .logInBasedOn _ => True

/-- The e-mail that the screen fetches. -/
def Installation.fetched (s : Installation) : Option String :=
  if isSavedLogin s.savedLogin then s.app.store.fetch.head?.bind User.email else none

/-- The screen has nothing but this e-mail and this password, and no tasks but those of Face ID
evaluations that read the keychain. -/
structure LogInScreen.OnlyStored (v : LogInScreen) (fetched stored : Option String) : Prop where
  email : ∀ e ∈ v.email, e ∈ fetched
  password : ∀ p ∈ v.password, p ∈ stored
  tasks : ∀ origin ∈ v.tasks, ∃ i, origin = .rightFace i ∧
    v.evaluations[i]? = some (.assigned stored.isSome)
  requests : ∀ request ∈ v.requests, request.email ∈ fetched ∧ request.password ∈ stored

variable {device : Device} {s : Installation} {v v' : LogInScreen} {fetched stored : Option String}

/-! ## One event on the screen -/

theorem fetched_eq_some {before : String → Option String} {history : List (String × String)}
    (h : s.app.Agrees device before history) {e : String} :
    e ∈ s.fetched ↔ isSavedLogin s.savedLogin = true ∧ IsLeast s.app.store.Email e := by
  rw [Installation.fetched, Option.mem_def, Option.ite_none_right_eq_some, fetch_head_email h.emailed]

/-- A read of the keychain finds the stored password, or fails. -/
theorem getPassword_stored {before : String → Option String} {history : List (String × String)}
    (h : s.app.Agrees device before history) (hv : v.OnlyStored fetched stored)
    (hstored : ∀ e ∈ fetched, stored = lastUnder before history e) (origin : Origin) (fault : Option Int) :
    v.getPasswordInKeychain device origin fault s.app.keychain = (v, false) ∨
      v.getPasswordInKeychain device origin fault s.app.keychain =
        (v.setPassword stored origin, stored.isSome) := by
  unfold LogInScreen.getPasswordInKeychain
  cases hemail : v.email with
  | none => exact .inl rfl
  | some e =>
    have hlast := hstored e (hv.email e hemail)
    cases v.didValidRightFace with
    | false => exact .inl rfl
    | true =>
      cases fault with
      | some code => exact .inl rfl
      | none =>
        have hfind := find_of_represents h.passwords e
        rw [← hlast] at hfind
        refine .inr ?_
        dsimp only
        rw [hfind]

/-- Evaluations that have read the keychain stay, and so do their tasks. -/
theorem LogInScreen.OnlyStored.of_evaluations (hv : v.OnlyStored fetched stored)
    (hemail : v'.email = v.email) (hpassword : v'.password = v.password) (htasks : v'.tasks = v.tasks)
    (hrequests : v'.requests = v.requests)
    (hevaluations : ∀ (i : ℕ) (passwordFound : Bool),
      v.evaluations[i]? = some (Evaluation.assigned passwordFound) →
        v'.evaluations[i]? = some (Evaluation.assigned passwordFound)) : v'.OnlyStored fetched stored where
  email := hemail ▸ hv.email
  password := hpassword ▸ hv.password
  tasks origin ho := by
    obtain ⟨i, rfl, hi⟩ := hv.tasks origin (htasks ▸ ho)
    exact ⟨i, rfl, hevaluations i _ hi⟩
  requests := hrequests ▸ hv.requests

/-- The task of an evaluation assigns: it starts a login task exactly if it has read the keychain. -/
theorem didValidRightFace_onlyStored {before : String → Option String} {history : List (String × String)}
    (h : s.app.Agrees device before history) (hv : v.OnlyStored fetched stored)
    (hstored : ∀ e ∈ fetched, stored = lastUnder before history e) {i : ℕ} {fault : Option Int}
    (hs : v.step device (.didValidRightFace i fault s.app.keychain) = some v') :
    v'.OnlyStored fetched stored := by
  simp only [LogInScreen.step] at hs
  split at hs
  · rename_i success hi
    obtain rfl := Option.some.inj hs
    have hlt := (List.getElem?_eq_some_iff.1 hi).1
    have hkept := fun b => @assigned_of_set v.evaluations i _ b hi (by rintro _ ⟨⟩)
    have hface : ({ v with didValidRightFace := success } : LogInScreen).OnlyStored fetched stored :=
      hv.of_evaluations rfl rfl rfl rfl fun _ _ => id
    rcases getPassword_stored h hface hstored (.rightFace i) fault with hget | hget
    · rw [hget]
      exact hv.of_evaluations rfl rfl rfl rfl (hkept _)
    · rw [hget]
      refine ⟨hv.email, fun p hp => hp, fun origin ho => ?_, hv.requests⟩
      rcases List.mem_append.1 ho with ho | ho
      · obtain ⟨j, rfl, hj⟩ := hv.tasks origin ho
        exact ⟨j, rfl, hkept _ j _ hj⟩
      · obtain rfl := List.mem_singleton.1 ho
        exact ⟨i, rfl, List.getElem?_set_self hlt⟩
  · cases hs

/-- **One event** keeps what the screen has, and its task is for a recognised face. -/
theorem step_onlyStored {before : String → Option String} {history : List (String × String)}
    (h : s.app.Agrees device before history) (hv : v.OnlyStored s.fetched stored)
    (hstored : ∀ e ∈ s.fetched, stored = lastUnder before history e) {e : LogInScreenEvent}
    (he : s.Allows e) (hs : v.step device e = some v') :
    v'.OnlyStored s.fetched stored ∧ Purposeful v e := by
  cases e with
  | handleEventFromLogInButton satisfied emailText passwordText =>
    obtain rfl : satisfied = false := he
    obtain rfl := Option.some.inj hs
    exact ⟨hv.of_evaluations rfl rfl rfl rfl fun _ _ => id, trivial⟩
  | handleEventFromFaceIdButton =>
    obtain rfl := Option.some.inj hs
    refine ⟨hv.of_evaluations rfl rfl rfl rfl fun i _ hi => ?_, trivial⟩
    have hlt := (List.getElem?_eq_some_iff.1 hi).1
    exact (List.getElem?_append_left hlt).trans hi
  | evaluate i canEvaluate evaluatePolicy =>
    obtain ⟨hi, rfl⟩ := by simpa [LogInScreen.step] using hs
    exact ⟨hv.of_evaluations rfl rfl rfl rfl (assigned_of_set hi (by rintro _ ⟨⟩)), trivial⟩
  | didValidRightFace i fault keychain =>
    obtain rfl : keychain = s.app.keychain := he
    exact ⟨didValidRightFace_onlyStored h hv hstored hs, trivial⟩
  | logInBasedOn origin =>
    obtain ⟨ho, rfl⟩ := by simpa [LogInScreen.step] using hs
    obtain ⟨i, rfl, hi⟩ := hv.tasks origin ho
    have htasks : ∀ origin ∈ v.tasks.erase (.rightFace i), ∃ j, origin = .rightFace j ∧
        v.evaluations[j]? = some (.assigned stored.isSome) :=
      fun origin ho => hv.tasks origin (List.mem_of_mem_erase ho)
    constructor
    · unfold LogInScreen.logInBasedOn
      dsimp only
      split
      · rename_i e p he hp
        refine ⟨hv.email, hv.password, htasks, forall_mem_snoc_iff.2 ⟨hv.requests, ?_⟩⟩
        exact ⟨hv.email e he, hv.password p hp⟩
      · exact ⟨hv.email, hv.password, htasks, hv.requests⟩
    · -- a password that the screen has is the stored one, so it was found
      intro _ hsome
      obtain ⟨p, hp⟩ := Option.isSome_iff_exists.1 hsome
      rw [hi, Option.isSome_iff_exists.2 ⟨p, hv.password p hp⟩]
  | fetchUserInCoreData users =>
    obtain ⟨hsaved, rfl⟩ := he
    obtain rfl := Option.some.inj hs
    unfold LogInScreen.fetchUserInCoreData
    split
    · rename_i user hhead
      refine ⟨⟨fun e he => ?_, hv.password, hv.tasks, hv.requests⟩, trivial⟩
      have hfetch : s.app.store.fetch.head? = some user := hhead
      rw [Installation.fetched, if_pos hsaved, hfetch]
      exact he
    · exact ⟨hv, trivial⟩

/-! ## Runs of the screen -/

/-- **A run** of such a screen has nothing but what is stored. -/
theorem run_onlyStored {before : String → Option String} {history : List (String × String)}
    (h : s.app.Agrees device before history) {screenEvents : List LogInScreenEvent}
    (hr : run (LogInScreen.step device) .launch screenEvents = some v)
    (hevents : ∀ e ∈ screenEvents, s.Allows e) :
    v.OnPurpose ∧ v.OnlyStored s.fetched (s.fetched.bind (lastUnder before history)) := by
  have hstored : ∀ e ∈ s.fetched,
      s.fetched.bind (lastUnder before history) = lastUnder before history e := by
    intro e he
    rw [he]
    rfl
  have hlaunch : LogInScreen.launch.Tracked ∧ LogInScreen.launch.OnPurpose ∧
      LogInScreen.launch.OnlyStored s.fetched (s.fetched.bind (lastUnder before history)) := by
    refine ⟨⟨List.nodup_nil, ?_⟩, ⟨List.nodup_nil, ?_⟩, ?_, ?_, ?_, ?_⟩
    all_goals simp [LogInScreen.launch, LogInScreen.origins, LogInScreen.purposes]
  refine (run_inv_forall (I := fun v : LogInScreen => v.Tracked ∧ v.OnPurpose ∧
    v.OnlyStored s.fetched (s.fetched.bind (lastUnder before history))) ?_ hevents hlaunch hr).2
  rintro v e v' ⟨htracked, hpurpose, hv⟩ he hs
  obtain ⟨hv', hpurposeful⟩ := step_onlyStored h hv hstored he hs
  obtain ⟨htracked', hiff⟩ := step_tracked v e v' htracked hs
  exact ⟨htracked', hiff.2 ⟨hpurpose, hpurposeful⟩, hv'⟩

/-- **What Face ID signs in with**, after any run since the installation and on any such screen. -/
theorem faceID_signs_in {before : String → Option String} {keychain : Keychain}
    (hbefore : device.firebaseKeychain.Represents device keychain before) {es : List InstallationEvent}
    {history : List (String × String)}
    (h : run (Installation.recordedStep device) (.fresh keychain, []) es = some (s, history))
    {screenEvents : List LogInScreenEvent} (hr : run (LogInScreen.step device) .launch screenEvents = some v)
    (hevents : ∀ e ∈ screenEvents, s.Allows e) :
    v.OnPurpose ∧ ∀ request ∈ v.requests, SavedBy es ∧ IsLeast s.app.store.Email request.email ∧
      lastUnder before history request.email = some request.password := by
  have hagrees : s.app.Agrees device before history := run_installation_agrees (launch_agrees hbefore) h
  obtain ⟨hpurpose, hv⟩ := run_onlyStored hagrees hr hevents
  refine ⟨hpurpose, fun request hrequest => ?_⟩
  obtain ⟨hemail, hpassword⟩ := hv.requests request hrequest
  obtain ⟨hsaved, hleast⟩ := (fetched_eq_some hagrees).1 hemail
  rw [hemail] at hpassword
  exact ⟨(run_savedBy (run_recorded.1 h).1).2.1 hsaved, hleast, hpassword⟩

/-- Face ID is tapped while the stored user is fetched, and recognises the face. -/
def Installation.faceIDEarly (s : Installation) : List LogInScreenEvent :=
  [.handleEventFromFaceIdButton, .fetchUserInCoreData (some s.app.store.fetch), .evaluate 0 true (.ok true),
    .didValidRightFace 0 none s.app.keychain, .logInBasedOn (.rightFace 0)]

theorem faceIDEarly_allowed (hsaved : isSavedLogin s.savedLogin = true) :
    ∀ e ∈ s.faceIDEarly, s.Allows e := by
  simp [Installation.faceIDEarly, Installation.Allows, hsaved]

theorem faceID_signs_in_enrolled :
    ∃ s v, run (Installation.recordedStep someDevice) (.fresh [], []) (signedUp true) =
        some (s, [("b@x", "secret")]) ∧
      run (LogInScreen.step someDevice) .launch s.faceIDEarly = some v ∧
      v.requests = [⟨.rightFace 0, "b@x", "secret"⟩] ∧ v.OnPurpose ∧ IsLeast s.app.store.Email "b@x" := by
  obtain ⟨s, v, hs, hsaved, hv, hrequests⟩ : ∃ s v,
      run (Installation.recordedStep someDevice) (.fresh [], []) (signedUp true) =
        some (s, [("b@x", "secret")]) ∧ isSavedLogin s.savedLogin = true ∧
      run (LogInScreen.step someDevice) .launch s.faceIDEarly = some v ∧
      v.requests = [⟨.rightFace 0, "b@x", "secret"⟩] := ⟨_, _, rfl, rfl, rfl, rfl⟩
  obtain ⟨hpurpose, hall⟩ :=
    faceID_signs_in (represents_nil someDevice _) hs hv (faceIDEarly_allowed hsaved)
  obtain ⟨-, hleast, -⟩ := hall ⟨.rightFace 0, "b@x", "secret"⟩ (by simp [hrequests])
  exact ⟨s, v, hs, hv, hrequests, hpurpose, hleast⟩

/-! ## A smaller e-mail is stored -/

/-- At a relaunch, the e-mail's row is saved. -/
def Installation.RowSaved (email : String) (s : Installation) (e : InstallationEvent) : Prop :=
  e = .launch .relaunch → email ∈ s.app.store.relaunch.Email

theorem installation_email_kept {t : Installation} {es : List InstallationEvent} {email : String}
    (hr : run (Installation.step device) s es = some t) (hemail : email ∈ s.app.store.Email)
    (hsaved : Along (Installation.step device) (Installation.RowSaved email) s es) :
    email ∈ t.app.store.Email := by
  refine run_inv_along (I := fun s : Installation => email ∈ s.app.store.Email) (fun s e s' h hok hs => ?_)
    es hemail hr hsaved
  have hcases := installation_step_cases hs
  cases e with
  | launch e => exact email_kept hcases.1 h fun he => hok (he ▸ rfl)
  | logInUserSuccessfully | createUserSuccessfully | drain =>
    have happ : s'.app = s.app := hcases.1
    rw [happ]
    exact h

/-- Entries under larger keys say nothing about the smaller ones. -/
theorem lastUnder_filter_le (before : String → Option String) (history later : List (String × String))
    {b c : String} (hcb : c ≤ b) :
    lastUnder before ((history.filter fun entry => entry.1 ≤ b) ++ later) c =
      lastUnder before (history ++ later) c := by
  have hfilter : lastUnder before (history.filter fun entry => entry.1 ≤ b) c = lastUnder before history c :=
    lastUnder_filter fun entry heq => heq ▸ hcb
  rw [lastUnder_append, lastUnder_append]
  simp only [lastUnder] at hfilter ⊢
  rw [hfilter]

/-- **A stored e-mail ends what was enrolled under larger ones**: every later Face ID sign-in is with
an e-mail up to it, and with none of the entries made so far under larger ones. -/
theorem larger_enrolments_lost {before : String → Option String} {keychain : Keychain}
    (hbefore : device.firebaseKeychain.Represents device keychain before)
    {es es' : List InstallationEvent} {history later : List (String × String)} {t : Installation} {b : String}
    (hs : run (Installation.recordedStep device) (.fresh keychain, []) es = some (s, history))
    (ht : run (Installation.recordedStep device) (s, history) es' = some (t, history ++ later))
    (hb : b ∈ s.app.store.Email)
    (hsaved : Along (Installation.step device) (Installation.RowSaved b) s es')
    {screenEvents : List LogInScreenEvent} (hr : run (LogInScreen.step device) .launch screenEvents = some v)
    (hevents : ∀ e ∈ screenEvents, t.Allows e) :
    ∀ request ∈ v.requests, request.email ≤ b ∧
      lastUnder before ((history.filter fun entry => entry.1 ≤ b) ++ later) request.email =
        some request.password := by
  have hagrees : t.app.Agrees device before (history ++ later) :=
    run_installation_agrees (run_installation_agrees (launch_agrees hbefore) hs) ht
  have hkept := installation_email_kept (run_recorded.1 ht).1 hb hsaved
  intro request hrequest
  obtain ⟨hemail, hpassword⟩ := (run_onlyStored hagrees hr hevents).2.requests request hrequest
  obtain ⟨-, hleast⟩ := (fetched_eq_some hagrees).1 hemail
  have hle : request.email ≤ b := hleast.2 hkept
  rw [hemail] at hpassword
  exact ⟨hle, (lastUnder_filter_le before history later hle).trans hpassword⟩

/-- `a@x` signs in, and the settings screen reads its document; the save of its row may fail. -/
def lookAtA (saveThrows : Bool) : List InstallationEvent :=
  ([.signOut, .signIn ⟨"A", "a@x", ["password"]⟩, .getUserInformation,
    .round 0 ⟨none, some ⟨some [("email", .string "a@x")]⟩, none, none, saveThrows⟩,
    .round 0 ⟨none, none, none, none, false⟩].map .event).map .launch

def enrolOther : InstallationEvent :=
  .launch (.event (.savePasswordInKeychain (some "other") ⟨none, none⟩))

/-- `b@x` has enrolled, and `a@x` is looked at and enrols too: the next launch signs in with the
password of `a@x`. -/
theorem larger_enrolments_lost_second :
    ∃ s t v, run (Installation.recordedStep someDevice) (.fresh [], []) (signedUp true ++ lookAtA false) =
        some (s, [("b@x", "secret")]) ∧
      run (Installation.recordedStep someDevice) (s, [("b@x", "secret")])
          [enrolOther, .launch .relaunch] = some (t, [("b@x", "secret")] ++ [("a@x", "other")]) ∧
      run (LogInScreen.step someDevice) .launch t.faceIDEarly = some v ∧
      v.requests = [⟨.rightFace 0, "a@x", "other"⟩] ∧ ∀ request ∈ v.requests, request.email ≤ "a@x" := by
  obtain ⟨s, t, u, v, hs, ht, hsaved, hv, hrequests, hrows, hu, hrelaunch⟩ : ∃ s t u v,
      run (Installation.recordedStep someDevice) (.fresh [], []) (signedUp true ++ lookAtA false) =
        some (s, [("b@x", "secret")]) ∧
      run (Installation.recordedStep someDevice) (s, [("b@x", "secret")]) [enrolOther, .launch .relaunch] =
        some (t, [("b@x", "secret")] ++ [("a@x", "other")]) ∧ isSavedLogin t.savedLogin = true ∧
      run (LogInScreen.step someDevice) .launch t.faceIDEarly = some v ∧
      v.requests = [⟨.rightFace 0, "a@x", "other"⟩] ∧
      s.app.store.rows.map User.email = [some "b@x", some "a@x"] ∧
      s.step someDevice enrolOther = some u ∧
      u.app.store.relaunch.rows.map User.email = [some "b@x", some "a@x"] :=
    ⟨_, _, _, _, rfl, rfl, rfl, rfl, rfl, rfl, rfl, rfl⟩
  have hmem : ∀ store : UserStore, store.rows.map User.email = [some "b@x", some "a@x"] →
      "a@x" ∈ store.Email :=
    fun store h => (isLeast_of_rows ["b@x", "a@x"] h (by simp) (by decide)).1
  have hrow : Along (Installation.step someDevice) (Installation.RowSaved "a@x") s
      [enrolOther, .launch .relaunch] :=
    (along_cons hu).2 ⟨by simp [Installation.RowSaved, enrolOther], fun _ => hmem _ hrelaunch,
      fun _ _ => trivial⟩
  have hlost := larger_enrolments_lost (represents_nil someDevice _) hs ht (hmem _ hrows) hrow hv
    (faceIDEarly_allowed hsaved)
  exact ⟨s, t, v, hs, ht, hv, hrequests, fun request hrequest => (hlost request hrequest).1⟩

/-- **A relaunch brings enrolments back**: the row of `a@x` could not be saved. Face ID asks for its
password until the next launch, which signs `b@x` in again. -/
example :
    ∃ s t v v', run (Installation.recordedStep someDevice) (.fresh [], []) (signedUp true ++ lookAtA true) =
        some (s, [("b@x", "secret")]) ∧
      run (LogInScreen.step someDevice) .launch s.faceIDEarly.dropLast = some v ∧
      v.email = some "a@x" ∧ v.tasks = [.rightFace 0] ∧ v.password = none ∧
      s.step someDevice (.launch .relaunch) = some t ∧
      run (LogInScreen.step someDevice) .launch t.faceIDEarly = some v' ∧
      v'.requests = [⟨.rightFace 0, "b@x", "secret"⟩] :=
  ⟨_, _, _, _, rfl, rfl, rfl, rfl, rfl, rfl, rfl, rfl⟩

end ArtExhibition
