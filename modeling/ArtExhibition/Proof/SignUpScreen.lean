import ArtExhibition.Machine.Run
import ArtExhibition.Machine.Slots
import ArtExhibition.Spec.SignUpScreen
import Mathlib.Data.List.Nodup

/-!
# Which accounts the sign-up screen asks for

A handler assigns the view model's properties before it checks them, and a task reads them
again when it executes, so a call's e-mail and password are those of whichever taps assigned
them last (`SignUpScreen.Inv`). `calls_validated`: every call is made with values that one tap
passed the checks with, in every state of a run, if between the assignments of a tap that passes
and the two reads of a task that calls no other tap assigns (`ReadsOneTap`). Where no text is
typed twice, nothing else keeps the calls validated. No tap makes two calls, in any run. A rejected
tap after an accepted one is enough to break it (`rejected_tap_submitted`).
-/

namespace ArtExhibition

open Machine

variable {rules : SignUpRules} {screen screen' : SignUpScreen} {event : SignUpEvent}

/-- The texts of all taps. -/
def SignUpScreen.texts (screen : SignUpScreen) : List SignUpTexts := screen.taps.map SignUpTap.texts

def SignUpScreen.typedEmail (screen : SignUpScreen) (tap : ℕ) : Option String :=
  screen.texts[tap]?.bind SignUpTexts.email

def SignUpScreen.typedPassword (screen : SignUpScreen) (tap : ℕ) : Option String :=
  screen.texts[tap]?.bind SignUpTexts.password

/-- What a task has read was typed by the taps it was read from. -/
def SignUpScreen.ReadTyped (screen : SignUpScreen) : SignUpProgress → Prop
  | .passed (.readEmail emailTap email) => screen.typedEmail emailTap = some email
  | .passed (.readPassword emailTap passwordTap email password) =>
    screen.typedEmail emailTap = some email ∧ screen.typedPassword passwordTap = some password
  | _ => True

/-- **The invariant of the screen.** -/
structure SignUpScreen.Inv (screen : SignUpScreen) : Prop where
  email : ∀ email, screen.viewModel.email = some email → screen.typedEmail screen.emailTap = some email
  password : ∀ password, screen.viewModel.password = some password →
    screen.typedPassword screen.passwordTap = some password
  tasks : ∀ tap ∈ screen.taps, screen.ReadTyped tap.progress
  once : (screen.calls.map SignUpCall.tap).Nodup
  calls : ∀ call ∈ screen.calls, ∃ texts, screen.taps[call.tap]? = some ⟨texts, .passed .ended⟩

theorem launch_inv : SignUpScreen.launch.Inv where
  email := by simp [SignUpScreen.launch]
  password := by simp [SignUpScreen.launch]
  tasks := by simp [SignUpScreen.launch]
  once := by simp [SignUpScreen.launch]
  calls := by simp [SignUpScreen.launch]

/-! ## Progress of one tap -/

section Progress

variable {i : ℕ} {tap : SignUpTap} {progress : SignUpProgress}

theorem setProgress_taps (htap : screen.taps[i]? = some tap) :
    (screen.setProgress i progress).taps = screen.taps.set i { tap with progress := progress } := by
  refine List.ext_getElem? fun j => ?_
  rw [SignUpScreen.setProgress, List.getElem?_modify, List.getElem?_set]
  by_cases hij : i = j
  · subst hij
    rw [htap, if_pos (List.getElem?_eq_some_iff.1 htap).1]
    simp
  · simp [hij]

theorem setProgress_texts (screen : SignUpScreen) (i : ℕ) (progress : SignUpProgress) :
    (screen.setProgress i progress).texts = screen.texts := by
  refine List.ext_getElem? fun j => ?_
  simp only [SignUpScreen.texts, SignUpScreen.setProgress, List.getElem?_map, List.getElem?_modify]
  by_cases hij : i = j
  · simp [hij, Function.comp_def]
  · simp [hij]

theorem readTyped_congr (h : screen'.texts = screen.texts) (progress : SignUpProgress) :
    screen'.ReadTyped progress ↔ screen.ReadTyped progress := by
  unfold SignUpScreen.ReadTyped SignUpScreen.typedEmail SignUpScreen.typedPassword
  rw [h]

/-- **Progress keeps the invariant**, of a tap whose task has not ended. -/
theorem SignUpScreen.Inv.setProgress (h : screen.Inv) (htap : screen.taps[i]? = some tap)
    (hlive : tap.progress ≠ .passed .ended) (hread : screen.ReadTyped progress) :
    (screen.setProgress i progress).Inv := by
  have htexts := setProgress_texts screen i progress
  have hcongr := readTyped_congr htexts
  refine ⟨?_, ?_, ?_, h.once, ?_⟩
  · intro email hemail
    rw [SignUpScreen.typedEmail, htexts]
    exact h.email email hemail
  · intro password hpassword
    rw [SignUpScreen.typedPassword, htexts]
    exact h.password password hpassword
  · rw [setProgress_taps htap]
    refine forall_mem_set_of (fun t ht => ?_) ((hcongr _).2 hread)
    exact (hcongr _).2 (h.tasks t ht)
  · intro call hcall
    obtain ⟨texts, hended⟩ := h.calls call hcall
    refine ⟨texts, ?_⟩
    rw [setProgress_taps htap, List.getElem?_set_ne]
    · exact hended
    · -- the tap of a call has ended
      rintro rfl
      rw [htap, Option.some.injEq] at hended
      exact hlive (by rw [hended])

end Progress

/-- Assignments to the view model keep the invariant when the new values were typed. -/
theorem SignUpScreen.Inv.assign (h : screen.Inv) (htaps : screen'.taps = screen.taps)
    (hcalls : screen'.calls = screen.calls)
    (hemail : ∀ email, screen'.viewModel.email = some email → screen'.typedEmail screen'.emailTap = some email)
    (hpassword : ∀ password, screen'.viewModel.password = some password →
      screen'.typedPassword screen'.passwordTap = some password) : screen'.Inv := by
  have htexts : screen'.texts = screen.texts := congrArg (List.map SignUpTap.texts) htaps
  refine ⟨hemail, hpassword, ?_, ?_, ?_⟩
  · rw [htaps]
    exact fun tap htap => (readTyped_congr htexts _).2 (h.tasks tap htap)
  · rw [hcalls]
    exact h.once
  · rw [htaps, hcalls]
    exact h.calls

/-- A running handler is that of the last tap. -/
theorem running_eq_some {texts : SignUpTexts} {statement : SignUpStatement}
    (h : screen.running = some (texts, statement)) :
    screen.taps[screen.taps.length - 1]? = some ⟨texts, .next statement⟩ := by
  unfold SignUpScreen.running at h
  split at h
  · rename_i hlast
    rw [List.getLast?_eq_getElem?] at hlast
    cases h
    exact hlast
  · cases h

theorem typed_of_slot {i : ℕ} {tap : SignUpTap} (h : screen.taps[i]? = some tap) :
    screen.typedEmail i = tap.texts.email ∧ screen.typedPassword i = tap.texts.password := by
  simp [SignUpScreen.typedEmail, SignUpScreen.typedPassword, SignUpScreen.texts, h]

theorem readTyped_mono
    (hemail : ∀ i email, screen.typedEmail i = some email → screen'.typedEmail i = some email)
    (hpassword : ∀ i password, screen.typedPassword i = some password →
      screen'.typedPassword i = some password) :
    ∀ progress, screen.ReadTyped progress → screen'.ReadTyped progress
  | .passed (.readEmail _ _), h => hemail _ _ h
  | .passed (.readPassword _ _ _ _), h => ⟨hemail _ _ h.1, hpassword _ _ h.2⟩
  | .passed .started, _ | .passed .ended, _ | .next _, _ | .refused, _ => trivial

/-- A new tap keeps what was typed before. -/
theorem typed_append {tap : SignUpTap} (htaps : screen'.taps = screen.taps ++ [tap]) (i : ℕ) (value : String) :
    (screen.typedEmail i = some value → screen'.typedEmail i = some value) ∧
    (screen.typedPassword i = some value → screen'.typedPassword i = some value) := by
  have htexts : screen'.texts = screen.texts ++ [tap.texts] := by
    simp [SignUpScreen.texts, htaps]
  have hold : ∀ texts, screen.texts[i]? = some texts → screen'.texts[i]? = some texts := by
    intro texts h
    rw [htexts, List.getElem?_append_left (List.getElem?_eq_some_iff.1 h).1, h]
  constructor
  · intro h
    obtain ⟨texts, hi, hvalue⟩ := Option.bind_eq_some_iff.1 h
    exact Option.bind_eq_some_iff.2 ⟨texts, hold texts hi, hvalue⟩
  · intro h
    obtain ⟨texts, hi, hvalue⟩ := Option.bind_eq_some_iff.1 h
    exact Option.bind_eq_some_iff.2 ⟨texts, hold texts hi, hvalue⟩

/-! ## Each event keeps the invariant -/

theorem inv_tap (h : screen.Inv) {tap : SignUpTap}
    (hread : ∀ screen, SignUpScreen.ReadTyped screen tap.progress)
    (hscreen : screen' = { screen with taps := screen.taps ++ [tap] }) : screen'.Inv := by
  have htaps : screen'.taps = screen.taps ++ [tap] := by rw [hscreen]
  have htyped := typed_append htaps
  refine ⟨?_, ?_, ?_, ?_, ?_⟩
  · intro email hemail
    refine (htyped _ email).1 ?_
    rw [hscreen] at hemail ⊢
    exact h.email email hemail
  · intro password hpassword
    refine (htyped _ password).2 ?_
    rw [hscreen] at hpassword ⊢
    exact h.password password hpassword
  · rw [htaps]
    refine forall_mem_snoc_iff.2 ⟨fun tap htap => ?_, hread screen'⟩
    exact readTyped_mono (fun i email => (htyped i email).1) (fun i password => (htyped i password).2) _
      (h.tasks tap htap)
  · rw [hscreen]
    exact h.once
  · intro call hcall
    rw [hscreen] at hcall
    obtain ⟨texts, hended⟩ := h.calls call hcall
    refine ⟨texts, ?_⟩
    rw [htaps, List.getElem?_append_left (List.getElem?_eq_some_iff.1 hended).1, hended]

theorem readTyped_ite {c : Prop} [Decidable c] {progress progress' : SignUpProgress}
    (h : screen.ReadTyped progress) (h' : screen.ReadTyped progress') :
    screen.ReadTyped (if c then progress else progress') := by
  split
  · exact h
  · exact h'

/-- **What a statement of the handler does**: it assigns the e-mail or the password that its
tap typed, or neither, and its tap goes on. -/
theorem handler_cases (rules : SignUpRules) (screen : SignUpScreen) (i : ℕ) (texts : SignUpTexts)
    (statement : SignUpStatement) :
    ∃ (assigned : SignUpScreen) (progress : SignUpProgress),
      screen.handleEventFromSignUpButton rules i texts statement = assigned.setProgress i progress ∧
      (assigned.taps = screen.taps ∧ assigned.calls = screen.calls) ∧
      (assigned.viewModel.email = screen.viewModel.email ∧ assigned.emailTap = screen.emailTap ∨
        assigned.viewModel.email = texts.email ∧ assigned.emailTap = i) ∧
      (assigned.viewModel.password = screen.viewModel.password ∧
          assigned.passwordTap = screen.passwordTap ∨
        assigned.viewModel.password = texts.password ∧ assigned.passwordTap = i) ∧
      ∀ screen : SignUpScreen, screen.ReadTyped progress := by
  cases statement with
  | username => exact ⟨_, _, rfl, ⟨rfl, rfl⟩, .inl ⟨rfl, rfl⟩, .inl ⟨rfl, rfl⟩, fun _ => trivial⟩
  | fullname => exact ⟨_, _, rfl, ⟨rfl, rfl⟩, .inl ⟨rfl, rfl⟩, .inl ⟨rfl, rfl⟩, fun _ => trivial⟩
  | email =>
    exact ⟨_, _, rfl, ⟨rfl, rfl⟩, .inr ⟨rfl, rfl⟩, .inl ⟨rfl, rfl⟩,
      fun _ => readTyped_ite trivial trivial⟩
  | password =>
    exact ⟨_, _, rfl, ⟨rfl, rfl⟩, .inl ⟨rfl, rfl⟩, .inr ⟨rfl, rfl⟩,
      fun _ => readTyped_ite trivial trivial⟩
  | confirmationPassword =>
    exact ⟨_, _, rfl, ⟨rfl, rfl⟩, .inl ⟨rfl, rfl⟩, .inl ⟨rfl, rfl⟩,
      fun _ => readTyped_ite trivial trivial⟩

theorem inv_handler (h : screen.Inv) {texts : SignUpTexts} {statement : SignUpStatement} {i : ℕ}
    (htap : screen.taps[i]? = some ⟨texts, .next statement⟩) :
    (screen.handleEventFromSignUpButton rules i texts statement).Inv := by
  obtain ⟨assigned, progress, hhandler, ⟨htaps, hcalls⟩, hemail, hpassword, hread⟩ :=
    handler_cases rules screen i texts statement
  have htap' : assigned.taps[i]? = some ⟨texts, .next statement⟩ := htaps ▸ htap
  have htyped := typed_of_slot htap'
  have htexts : assigned.texts = screen.texts := congrArg (List.map SignUpTap.texts) htaps
  have hassign : assigned.Inv := by
    refine h.assign htaps hcalls (fun email he => ?_) fun password hp => ?_
    · rcases hemail with ⟨hsame, htapSame⟩ | ⟨hnew, htapNew⟩
      · rw [htapSame, SignUpScreen.typedEmail, htexts]
        exact h.email email (hsame ▸ he)
      · rw [htapNew, htyped.1, ← hnew, he]
    · rcases hpassword with ⟨hsame, htapSame⟩ | ⟨hnew, htapNew⟩
      · rw [htapSame, SignUpScreen.typedPassword, htexts]
        exact h.password password (hsame ▸ hp)
      · rw [htapNew, htyped.2, ← hnew, hp]
  have hlive : SignUpProgress.next statement ≠ .passed .ended := nofun
  rw [hhandler]
  exact hassign.setProgress htap' hlive (hread assigned)

/-- The end of a task that calls `createNewUserNameInFireBase`. -/
theorem inv_call (h : screen.Inv) {tap : SignUpTap} {call : SignUpCall}
    (htap : screen.taps[call.tap]? = some tap) (hlive : tap.progress ≠ .passed .ended) :
    SignUpScreen.Inv
      ({ screen with calls := screen.calls ++ [call] }.setProgress call.tap (.passed .ended)) := by
  have hread : screen.ReadTyped (.passed .ended) := trivial
  have hended := h.setProgress htap hlive hread
  -- the tap made no call before, as its task had not ended
  have hnew : call.tap ∉ screen.calls.map SignUpCall.tap := by
    intro hmem
    obtain ⟨other, hother, hsame⟩ := List.mem_map.1 hmem
    obtain ⟨texts, hslot⟩ := h.calls other hother
    rw [hsame, htap, Option.some.injEq] at hslot
    exact hlive (by rw [hslot])
  have honce : ((screen.calls ++ [call]).map SignUpCall.tap).Nodup := by
    rw [List.map_append, List.map_singleton, List.nodup_append]
    refine ⟨h.once, List.nodup_singleton _, ?_⟩
    intro i hi j hj hij
    rw [List.mem_singleton] at hj
    rw [hij, hj] at hi
    exact hnew hi
  have hslot : (screen.setProgress call.tap (.passed .ended)).taps[call.tap]? =
      some ⟨tap.texts, .passed .ended⟩ := by
    rw [setProgress_taps htap, List.getElem?_set_self (List.getElem?_eq_some_iff.1 htap).1]
  exact ⟨hended.email, hended.password, hended.tasks, honce,
    forall_mem_snoc_iff.2 ⟨hended.calls, tap.texts, hslot⟩⟩

theorem inv_task (h : screen.Inv) {texts : SignUpTexts} {task : SignUpTask} {i : ℕ}
    (htap : screen.taps[i]? = some ⟨texts, .passed task⟩)
    (hstep : screen.createNewAccountByEmail i task = some screen') : screen'.Inv := by
  have hread := h.tasks _ (mem_of_slot htap)
  cases task with
  | started =>
    have hlive : SignUpProgress.passed .started ≠ .passed .ended := nofun
    simp only [SignUpScreen.createNewAccountByEmail] at hstep
    split at hstep
    · rename_i email hemail
      cases hstep
      exact h.setProgress htap hlive (h.email email hemail)
    · cases hstep
      exact h.setProgress htap hlive trivial
  | readEmail emailTap email =>
    have hlive : SignUpProgress.passed (.readEmail emailTap email) ≠ .passed .ended := nofun
    simp only [SignUpScreen.createNewAccountByEmail] at hstep
    split at hstep
    · rename_i password hpassword
      cases hstep
      exact h.setProgress htap hlive ⟨hread, h.password password hpassword⟩
    · cases hstep
      exact h.setProgress htap hlive trivial
  | readPassword emailTap passwordTap email password =>
    cases hstep
    exact inv_call h htap nofun
  | ended => cases hstep

theorem inv_step (h : screen.Inv) (hstep : screen.step rules event = some screen') : screen'.Inv := by
  cases event with
  | tap satisfied texts =>
    simp only [SignUpScreen.step, Option.ite_none_right_eq_some, Option.some.injEq] at hstep
    refine inv_tap h (fun screen => ?_) hstep.2.symm
    exact readTyped_ite trivial trivial
  | handler =>
    simp only [SignUpScreen.step] at hstep
    split at hstep
    · rename_i texts statement hrunning
      cases hstep
      exact inv_handler h (running_eq_some hrunning)
    · cases hstep
  | task i =>
    simp only [SignUpScreen.step] at hstep
    split at hstep
    · rename_i texts task htap
      exact inv_task h htap hstep
    · cases hstep
  | pickAvatar image =>
    simp only [SignUpScreen.step, Option.ite_none_right_eq_some, Option.some.injEq] at hstep
    rw [← hstep.2]
    exact h.assign rfl rfl h.email h.password

/-! ## When the calls are validated -/

/-- Some tap that has passed its checks typed this e-mail and this password. -/
def SignUpScreen.Accepted (screen : SignUpScreen) (email password : Option String) : Prop :=
  ∃ tap ∈ screen.taps, tap.hasPassed = true ∧ tap.texts.email = email ∧ tap.texts.password = password

instance (screen : SignUpScreen) (email password : Option String) :
    Decidable (screen.Accepted email password) :=
  inferInstanceAs (Decidable (∃ tap ∈ screen.taps, _))

/-- The taps that a task has read both its values from. -/
def SignUpProgress.reads : SignUpProgress → Option (ℕ × ℕ)
  | .passed (.readPassword emailTap passwordTap _ _) => some (emailTap, passwordTap)
  | _ => none

/-- The values that a task makes its call with were typed by one tap that has passed. -/
def SignUpScreen.ReadsAccepted (screen : SignUpScreen) : SignUpEvent → Prop
  | .task i => ∀ tap ∈ screen.taps[i]?, ∀ reads ∈ tap.progress.reads,
    screen.Accepted (screen.typedEmail reads.1) (screen.typedPassword reads.2)
  | _ => True

/-- **A task that makes its call has read from one tap**: the tap that was the last to assign the
e-mail at the first read was the last to assign the password at the second, and it has passed. -/
def SignUpScreen.ReadsOneTap (screen : SignUpScreen) : SignUpEvent → Prop
  | .task i => ∀ tap ∈ screen.taps[i]?, ∀ reads ∈ tap.progress.reads,
    reads.1 = reads.2 ∧ screen.taps[reads.1]?.any SignUpTap.hasPassed = true
  | _ => True

instance (screen : SignUpScreen) : (event : SignUpEvent) → Decidable (screen.ReadsOneTap event)
  | .task i => inferInstanceAs (Decidable (∀ tap ∈ screen.taps[i]?, _))
  | .tap _ _ | .handler | .pickAvatar _ => inferInstanceAs (Decidable True)

/-- No two taps typed the same e-mail, and no two the same password. -/
def SignUpScreen.Distinct (screen : SignUpScreen) : Prop :=
  ∀ i j value, (screen.typedEmail i = some value → screen.typedEmail j = some value → i = j) ∧
    (screen.typedPassword i = some value → screen.typedPassword j = some value → i = j)

/-- What one tap typed that has passed is accepted. -/
theorem accepted_of_oneTap (h : screen.ReadsOneTap event) : screen.ReadsAccepted event := by
  cases event with
  | task i =>
    intro tap htap reads hreads
    obtain ⟨hsame, hpassed⟩ := h tap htap reads hreads
    obtain ⟨source, hsource, hpassed⟩ := (Option.any_eq_true _ _).1 hpassed
    obtain ⟨hemail, hpassword⟩ := typed_of_slot hsource
    exact ⟨source, mem_of_slot hsource, hpassed, hemail.symm, hsame ▸ hpassword.symm⟩
  | tap | handler | pickAvatar => trivial

/-- And where no text is typed twice, it can only be accepted so. -/
theorem oneTap_of_accepted (hinv : screen.Inv) (hdistinct : screen.Distinct) (h : screen.ReadsAccepted event) :
    screen.ReadsOneTap event := by
  cases event with
  | task i =>
    intro tap htap reads hreads
    obtain ⟨source, hmem, hpassed, hemail, hpassword⟩ := h tap htap reads hreads
    obtain ⟨k, hk⟩ := List.mem_iff_getElem?.1 hmem
    obtain ⟨htypedEmail, htypedPassword⟩ := typed_of_slot hk
    have hread := hinv.tasks tap (mem_of_slot htap)
    obtain ⟨texts, progress⟩ := tap
    cases progress with
    | passed task =>
      cases task with
      | readPassword emailTap passwordTap email password =>
        obtain rfl := Option.some.inj hreads
        -- the accepted tap typed both values, so it is each of the two taps read
        obtain rfl := (hdistinct k emailTap email).1 (htypedEmail.trans (hemail.trans hread.1)) hread.1
        obtain rfl := (hdistinct k passwordTap password).2
          (htypedPassword.trans (hpassword.trans hread.2)) hread.2
        exact ⟨rfl, by rw [hk]; exact hpassed⟩
      | started | readEmail | ended => cases hreads
    | next | refused => cases hreads
  | tap | handler | pickAvatar => trivial

/-- What is accepted before and after a tap goes on. -/
theorem accepted_setProgress {i : ℕ} {tap : SignUpTap} (htap : screen.taps[i]? = some tap)
    (progress : SignUpProgress) (email password : Option String) :
    ((screen.setProgress i progress).Accepted email password ↔
      (∃ tap ∈ screen.taps.eraseIdx i, tap.hasPassed = true ∧ tap.texts.email = email ∧
        tap.texts.password = password) ∨
      (SignUpTap.mk tap.texts progress).hasPassed = true ∧ tap.texts.email = email ∧
        tap.texts.password = password) ∧
    (screen.Accepted email password ↔
      (∃ tap ∈ screen.taps.eraseIdx i, tap.hasPassed = true ∧ tap.texts.email = email ∧
        tap.texts.password = password) ∨
      tap.hasPassed = true ∧ tap.texts.email = email ∧ tap.texts.password = password) := by
  unfold SignUpScreen.Accepted
  rw [setProgress_taps htap]
  exact ⟨exists_mem_set_iff htap, exists_mem_iff_of_slot htap⟩

theorem SignUpScreen.Accepted.setProgress {i : ℕ} {tap : SignUpTap} {progress : SignUpProgress}
    {email password : Option String} (h : screen.Accepted email password)
    (htap : screen.taps[i]? = some tap)
    (hmono : tap.hasPassed = true → (SignUpTap.mk tap.texts progress).hasPassed = true) :
    (screen.setProgress i progress).Accepted email password := by
  obtain ⟨hafter, hbefore⟩ := accepted_setProgress htap progress email password
  rcases hbefore.1 h with hother | ⟨hpassed, hemail, hpassword⟩
  · exact hafter.2 (.inl hother)
  · exact hafter.2 (.inr ⟨hmono hpassed, hemail, hpassword⟩)

/-- A step that makes no call keeps the calls validated. -/
theorem validated_of_accepted (h : screen.CallsValidated) (hcalls : screen'.calls = screen.calls)
    (hmono : ∀ email password, screen.Accepted email password → screen'.Accepted email password) :
    screen'.CallsValidated := by
  intro call hcall
  rw [hcalls] at hcall
  exact hmono _ _ (h call hcall)

/-- A step of a task that makes no call. -/
theorem validated_setProgress {i : ℕ} {texts : SignUpTexts} {task task' : SignUpTask}
    (h : screen.CallsValidated) (htap : screen.taps[i]? = some ⟨texts, .passed task⟩) :
    (screen.setProgress i (.passed task')).CallsValidated :=
  validated_of_accepted h rfl fun _ _ haccepted => haccepted.setProgress htap fun _ => rfl

theorem validated_handler (h : screen.CallsValidated) {texts : SignUpTexts} {statement : SignUpStatement}
    {i : ℕ} (htap : screen.taps[i]? = some ⟨texts, .next statement⟩) :
    (screen.handleEventFromSignUpButton rules i texts statement).CallsValidated := by
  obtain ⟨assigned, progress, hhandler, ⟨htaps, hcalls⟩, -⟩ :=
    handler_cases rules screen i texts statement
  rw [hhandler]
  refine validated_of_accepted h hcalls fun email password haccepted => ?_
  have hassigned : assigned.Accepted email password := by
    unfold SignUpScreen.Accepted
    rw [htaps]
    exact haccepted
  -- the tap of the handler has not passed yet
  exact hassigned.setProgress (htaps ▸ htap) fun hpassed => by cases hpassed

/-- **A call is validated** exactly when the values read were typed together. -/
theorem validated_call (h : screen.CallsValidated) {texts : SignUpTexts} {i : ℕ} {task : SignUpTask}
    (htap : screen.taps[i]? = some ⟨texts, .passed task⟩) (user : NewUser) :
    ({ screen with calls := screen.calls ++ [SignUpCall.mk i user] }.setProgress i
        (.passed .ended)).CallsValidated ↔
      screen.Accepted (some user.email) (some user.password) := by
  have hsame : ∀ email password,
      (screen.setProgress i (.passed .ended)).Accepted email password ↔ screen.Accepted email password := by
    intro email password
    obtain ⟨hafter, hbefore⟩ := accepted_setProgress htap (.passed .ended) email password
    exact hafter.trans hbefore.symm
  have hold : ∀ call ∈ screen.calls,
      (screen.setProgress i (.passed .ended)).Accepted (some call.user.email) (some call.user.password) :=
    fun call hcall => (hsame _ _).2 (h call hcall)
  rw [← hsame]
  constructor
  · intro hnew
    exact hnew ⟨i, user⟩ (List.mem_append_right _ (List.mem_singleton_self _))
  · intro hnew
    exact forall_mem_snoc_iff.2 ⟨hold, hnew⟩

/-- **A statement of a task** goes on with the task, or makes its call. -/
theorem task_cases {i : ℕ} {task : SignUpTask}
    (hstep : screen.createNewAccountByEmail i task = some screen') :
    (∃ task', screen' = screen.setProgress i (.passed task')) ∧
        (SignUpProgress.passed task).reads = none ∨
      ∃ emailTap passwordTap user,
        task = .readPassword emailTap passwordTap user.email user.password ∧
        screen' = { screen with calls := screen.calls ++ [SignUpCall.mk i user] }.setProgress i
          (.passed .ended) := by
  cases task with
  | started =>
    simp only [SignUpScreen.createNewAccountByEmail] at hstep
    split at hstep <;> cases hstep <;> exact .inl ⟨⟨_, rfl⟩, rfl⟩
  | readEmail emailTap email =>
    simp only [SignUpScreen.createNewAccountByEmail] at hstep
    split at hstep <;> cases hstep <;> exact .inl ⟨⟨_, rfl⟩, rfl⟩
  | readPassword emailTap passwordTap email password =>
    cases hstep
    exact .inr ⟨emailTap, passwordTap, _, rfl, rfl⟩
  | ended => cases hstep

theorem validated_task (hinv : screen.Inv) (h : screen.CallsValidated) {texts : SignUpTexts} {task : SignUpTask}
    {i : ℕ} (htap : screen.taps[i]? = some ⟨texts, .passed task⟩)
    (hstep : screen.createNewAccountByEmail i task = some screen') :
    screen'.CallsValidated ↔ screen.ReadsAccepted (.task i) := by
  have hread := hinv.tasks _ (mem_of_slot htap)
  rcases task_cases hstep with ⟨⟨task', rfl⟩, hnone⟩ | ⟨emailTap, passwordTap, user, rfl, rfl⟩
  · refine iff_of_true (validated_setProgress h htap) ?_
    simp [SignUpScreen.ReadsAccepted, htap, hnone]
  · rw [validated_call h htap]
    simp [SignUpScreen.ReadsAccepted, htap, SignUpProgress.reads, hread.1, hread.2]

theorem validated_step (hinv : screen.Inv) (h : screen.CallsValidated)
    (hstep : screen.step rules event = some screen') :
    screen'.CallsValidated ↔ screen.ReadsAccepted event := by
  cases event with
  | tap satisfied texts =>
    refine iff_of_true ?_ trivial
    simp only [SignUpScreen.step, Option.ite_none_right_eq_some, Option.some.injEq] at hstep
    rw [← hstep.2]
    refine validated_of_accepted h rfl fun email password haccepted => ?_
    obtain ⟨tap, hmem, htap⟩ := haccepted
    exact ⟨tap, List.mem_append_left _ hmem, htap⟩
  | handler =>
    refine iff_of_true ?_ trivial
    simp only [SignUpScreen.step] at hstep
    split at hstep
    · rename_i texts statement hrunning
      cases hstep
      exact validated_handler h (running_eq_some hrunning)
    · cases hstep
  | task i =>
    simp only [SignUpScreen.step] at hstep
    split at hstep
    · rename_i texts task htap
      exact validated_task hinv h htap hstep
    · cases hstep
  | pickAvatar image =>
    refine iff_of_true ?_ trivial
    simp only [SignUpScreen.step, Option.ite_none_right_eq_some, Option.some.injEq] at hstep
    rw [← hstep.2]
    exact validated_of_accepted h rfl fun _ _ haccepted => haccepted

/-! ## Runs -/

/-- **Only validated values create an account**, in every state of a run, if every task that makes a
call in it has read both values from one tap that has passed; where no two taps type the same, only
then. In any run no tap makes two calls. -/
theorem calls_validated {rules : SignUpRules} {events : List SignUpEvent} {screen : SignUpScreen}
    (hrun : run (SignUpScreen.step rules) .launch events = some screen) :
    (Along (SignUpScreen.step rules) SignUpScreen.ReadsOneTap .launch events →
      Along (SignUpScreen.step rules)
        (fun screen event => ∀ screen' ∈ screen.step rules event, screen'.CallsValidated) .launch events ∧
      screen.CallsValidated) ∧
    (Along (SignUpScreen.step rules) (fun screen _ => screen.Distinct) .launch events →
      Along (SignUpScreen.step rules)
        (fun screen event => ∀ screen' ∈ screen.step rules event, screen'.CallsValidated) .launch events →
      Along (SignUpScreen.step rules) SignUpScreen.ReadsOneTap .launch events) ∧
    (screen.calls.map SignUpCall.tap).Nodup := by
  have hlaunch : SignUpScreen.launch.CallsValidated := fun call hcall => by cases hcall
  have hstates := states_iff_along (fun screen event screen' => inv_step)
    (fun screen event screen' => validated_step) events launch_inv hlaunch hrun
  have hinv : screen.Inv := run_inv (fun screen event screen' => inv_step) events launch_inv hrun
  refine ⟨fun hone => ?_, fun hdistinct hvalidated => ?_, hinv.once⟩
  · have haccepted := along_mono (fun screen event => accepted_of_oneTap) events hone
    exact ⟨hstates.1.2 haccepted, hstates.2 haccepted⟩
  · have hboth := along_and events hdistinct (hstates.1.1 hvalidated)
    exact along_of_inv (fun screen event screen' h _ => inv_step h)
      (fun screen event hinv h => oneTap_of_accepted hinv h.1 h.2) events launch_inv hboth

/-- A tap of Ann's, with this confirmation of her password. -/
def annTap (confirmPassword : String) : SignUpEvent :=
  .tap true ⟨some "ann", some "Ann", some "ann@art", some "Correct-Horse-1", some confirmPassword⟩

/-- A tap of Bob's, without a password. -/
def bobTap : SignUpEvent := .tap true ⟨some "bob", some "Bob", some "bob@art", some "", some ""⟩

/-- The rule asks for the length alone; of these texts no two are equivalent that are not equal. -/
def lengthRules : SignUpRules := ⟨fun password => 12 ≤ password.length, fun a b => a = b⟩

/-- Bob's tap is rejected, Ann's is accepted; once her task has read her texts, she taps again and
mistypes the confirmation. -/
def annTwiceRun : List SignUpEvent :=
  [bobTap, .handler, .handler, .handler, .handler,
    annTap "Correct-Horse-1", .handler, .handler, .handler, .handler, .handler, .task 1, .task 1,
    annTap "Correct-Horse", .handler, .handler, .handler, .handler, .handler, .task 1]

theorem calls_validated_annTwice :
    ∃ screen, run (SignUpScreen.step lengthRules) .launch annTwiceRun = some screen ∧
      screen.calls.map SignUpCall.tap = [1] ∧ screen.CallsValidated := by
  obtain ⟨screen, hrun, hcalls⟩ :
      ∃ screen, run (SignUpScreen.step lengthRules) .launch annTwiceRun =
        some screen ∧ screen.calls.map SignUpCall.tap = [1] := ⟨_, rfl, rfl⟩
  exact ⟨screen, hrun, hcalls, ((calls_validated hrun).1 (by decide)).2⟩

/-- The account is asked for with the e-mail and the empty password of a rejected tap. -/
theorem rejected_tap_submitted :
    ∃ screen, run (SignUpScreen.step lengthRules) .launch
      [annTap "Correct-Horse-1", .handler, .handler, .handler, .handler, .handler,
        bobTap, .handler, .handler, .handler, .handler, .task 0, .task 0, .task 0] = some screen ∧
      screen.calls.map (fun call => (call.user.email, call.user.password)) = [("bob@art", "")] ∧
      ¬ screen.CallsValidated :=
  ⟨_, rfl, rfl, by decide⟩

end ArtExhibition
