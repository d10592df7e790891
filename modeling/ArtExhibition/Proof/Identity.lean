import ArtExhibition.Machine.Slots
import ArtExhibition.Spec.Login

/-!
# Who is signed in when a login reports success

`IdentityOK` says of a step that, if it sets `logInUserSuccessfully` to `true`, the
current user is the account that the attempt's own credential identifies. A Zalo login
breaks it: ZaloSDK signs nobody in to Firebase (`zalo_unidentified`).

`identity_along`: it holds along every run in which no Zalo login succeeds, no link ends
after its user has been replaced, and nothing replaces the current user between the
Firebase result of an attempt and its assignment (`Undisturbed`). The invariant
(`Identified`) is that an attempt waiting to assign `true` has the current user's credential.
-/

namespace ArtExhibition

open Machine

/-- The credential of an attempt whose `true` has arrived and is not assigned yet. -/
def Phase.awaiting : Phase → Option AuthCredential
  | .succeeded c => some c
  | _ => none

/-- If the event sets `logInUserSuccessfully` to `true`: the Firebase credential of the
attempt, which a Zalo login does not have. -/
def Session.setsTrue (s : Session) : LoginEvent → Option (Option AuthCredential)
  | .assign i => (s.attempts[i]?.bind (·.phase.awaiting)).map some
  | .zaloCallback _ isSucess selfAlive => if isSucess && selfAlive then some none else none
  | _ => none

/-- **Identity after login**: whenever `logInUserSuccessfully` becomes `true`, somebody is
signed in, and it is the account of the attempt's credential. -/
def IdentityOK (s : Session) (e : LoginEvent) : Prop :=
  ∀ c ∈ s.setsTrue e, ∃ user ∈ s.currentUser, c.bind s.owner = some user

instance (s : Session) (e : LoginEvent) : Decidable (IdentityOK s e) :=
  inferInstanceAs (Decidable (∀ c ∈ s.setsTrue e, ∃ user ∈ s.currentUser, c.bind s.owner = some user))

/-- Every attempt waiting to assign `true` is for the account `uid`. -/
def Session.AllFor (s : Session) (uid : String) : Prop :=
  ∀ a ∈ s.attempts, ∀ c ∈ a.phase.awaiting, s.owner c = some uid

instance (s : Session) (uid : String) : Decidable (s.AllFor uid) :=
  inferInstanceAs (Decidable (∀ a ∈ s.attempts, ∀ c ∈ a.phase.awaiting, s.owner c = some uid))

/-- A Firebase call that would give the account `uid` may succeed now: a link, if its user
is still the current one; a sign-in, if nobody waits to assign `true` for another account. -/
def Session.MaySucceed (s : Session) (uid : String) : Phase → Prop
  | .link user _ => s.currentUser = some user
  | .signIn _ => s.AllFor uid
  | _ => True

instance (s : Session) (uid : String) : ∀ phase : Phase, Decidable (s.MaySucceed uid phase)
  | .link user _ => inferInstanceAs (Decidable (s.currentUser = some user))
  | .signIn _ => inferInstanceAs (Decidable (s.AllFor uid))
  | .provider | .credential _ | .succeeded _ | .declined | .ended => .isTrue trivial

/-- The condition on a step: no Zalo login succeeds; a link succeeds only while its user
is the current one; a sign-in to another account, and a sign-out, come only while no
attempt is between its Firebase result and its assignment. -/
def Undisturbed (s : Session) : LoginEvent → Prop
  | .zaloCallback _ isSucess selfAlive => (isSucess && selfAlive) = false
  | .firebaseCallback i authResult error =>
    ∀ a ∈ s.attempts[i]?, ∀ uid ∈ authResult, error = none → s.MaySucceed uid a.phase
  | .logOut signOutThrows => signOutThrows = false → ∀ a ∈ s.attempts, a.phase.awaiting = none
  | _ => True

instance (s : Session) : ∀ e : LoginEvent, Decidable (Undisturbed s e)
  | .zaloCallback _ isSucess selfAlive =>
    inferInstanceAs (Decidable ((isSucess && selfAlive) = false))
  | .firebaseCallback i authResult error =>
    inferInstanceAs (Decidable (∀ a ∈ s.attempts[i]?, ∀ uid ∈ authResult,
      error = none → s.MaySucceed uid a.phase))
  | .logOut signOutThrows =>
    inferInstanceAs (Decidable (signOutThrows = false → ∀ a ∈ s.attempts, a.phase.awaiting = none))
  | .sessionTimer | .assign _ | .firebaseLogin _ | .providerCallback .. | .logInBasedOn .. =>
    .isTrue trivial

/-- An attempt waiting to assign `true` has the current user's credential. -/
def Identified (s : Session) : Prop :=
  ∀ a ∈ s.attempts, ∀ c ∈ a.phase.awaiting, ∃ user, s.currentUser = some user ∧ s.owner c = some user

theorem launch_identified (currentUser : Option String) (owner : AuthCredential → Option String) :
    Identified (Session.launch currentUser owner) := by
  intro a ha; simp [Session.launch] at ha

/-- An attempt that just begins waits for nothing. -/
theorem begin_awaiting (cfg : Setup) (cases : AuthProvider) (input : LogInInput) :
    (cfg.begin cases input).awaiting = none := by
  unfold Setup.begin
  repeat' split
  all_goals rfl

/-- Replacing one attempt's phase by one that waits for nothing keeps the invariant. -/
theorem Identified.setPhase {s : Session} (h : Identified s) (i : ℕ) (a : Attempt) {phase : Phase}
    (hp : phase.awaiting = none) : Identified (s.setPhase i a phase) :=
  forall_mem_set_of h (by simp [hp])

theorem after_awaiting {α : Type} {next : α → Phase} (hn : ∀ v, (next v).awaiting = none)
    (rs : List (Except NSError α)) : (Phase.after next rs).awaiting = none := by
  unfold Phase.after
  split
  · exact hn _
  all_goals rfl

/-- A Firebase callback without success leaves nothing to assign. -/
theorem authResult_failed {authResult : Option String} {error : Option NSError} (c : AuthCredential)
    (h : ∀ uid, authResult = some uid → error = none → False) :
    (Phase.after (fun success => if success then .succeeded c else .declined)
      (execute (authResultCallback authResult error)).1).awaiting = none := by
  rcases authResult with _ | uid
  · cases error <;> rfl
  · cases error with
    | none => exact (h uid rfl rfl).elim
    | some error => rfl

/-- The end of a Firebase call that succeeded: the attempt waits to assign `true`. -/
theorem firebaseReturn_success (s : Session) (i : ℕ) (a : Attempt) (c : AuthCredential) (uid : String) :
    s.firebaseReturn i a c (some uid) none =
      { s.setPhase i a (.succeeded c) with crashed := false } := rfl

/-- **What a Firebase callback does**: a link or a sign-in succeeds, or the attempt ends
and nothing else changes. -/
theorem firebaseCallback_cases {cfg : Setup} {s s' : Session} {i : ℕ} {authResult : Option String}
    {error : Option NSError}
    (h : s.step cfg (.firebaseCallback i authResult error) = some s') :
    ∃ a, s.attempts[i]? = some a ∧
      ((∃ user c, a.phase = .link user c ∧ authResult = some user ∧ error = none ∧
          s' = { (s.own c user).setPhase i a (.succeeded c) with crashed := false }) ∨
        (∃ c uid, a.phase = .signIn c ∧ authResult = some uid ∧ error = none ∧
          s' = { ({ s.own c uid with currentUser := some uid }).setPhase i a (.succeeded c) with
            crashed := false }) ∨
        ∃ phase crashed, phase.awaiting = none ∧ s' = { s.setPhase i a phase with crashed := crashed }) := by
  unfold Session.step at h
  split at h
  · cases h
  simp only [Option.bind_eq_bind, Option.bind_eq_some_iff] at h
  obtain ⟨a, ha, h⟩ := h
  refine ⟨a, ha, ?_⟩
  split at h
  · rename_i user c uid hp
    split at h
    · rename_i hg
      obtain ⟨rfl, -⟩ := hg
      rw [firebaseReturn_success, Option.some.injEq] at h
      exact .inl ⟨uid, c, hp, rfl, rfl, h.symm⟩
    · cases h
  · rename_i c uid hp
    split at h
    · rw [firebaseReturn_success, Option.some.injEq] at h
      exact .inr (.inl ⟨c, uid, hp, rfl, rfl, h.symm⟩)
    · cases h
  · rename_i c _ hne
    rw [Option.some.injEq] at h
    exact .inr (.inr ⟨_, _, authResult_failed c hne, h.symm⟩)
  · rename_i c _ hne
    rw [Option.some.injEq] at h
    exact .inr (.inr ⟨_, _, authResult_failed c hne, h.symm⟩)
  · cases h

/-- A success for `uid`, when every attempt waiting to assign `true` is for `uid`. -/
theorem Session.AllFor.update {s : Session} (i : ℕ) (a : Attempt) (c : AuthCredential)
    {uid : String} {currentUser : Option String} (hc : currentUser = some uid)
    (hall : s.AllFor uid) :
    Identified { (s.own c uid).setPhase i a (.succeeded c) with
      currentUser := currentUser, crashed := false } := by
  subst hc
  show ∀ x ∈ s.attempts.set i { a with phase := .succeeded c }, _
  refine forall_mem_set_of (fun x hx d hd => ⟨uid, rfl, ?_⟩) ?_
  · by_cases hdc : d = c
    · subst hdc; simp [Session.own, Session.setPhase]
    · simpa [Session.own, Session.setPhase, hdc] using hall x hx d hd
  · intro d hd
    obtain rfl : c = d := by simpa [Phase.awaiting] using hd
    exact ⟨uid, rfl, by simp [Session.own, Session.setPhase]⟩

/-- While the current user is `uid`, every attempt waiting to assign `true` is for `uid`. -/
theorem Identified.allFor {s : Session} (h : Identified s) {uid : String}
    (hu : s.currentUser = some uid) : s.AllFor uid := by
  intro a ha c hc
  obtain ⟨user, h1, h2⟩ := h a ha c hc
  rw [hu, Option.some.injEq] at h1
  exact h1 ▸ h2

/-- **One step keeps the invariant**, if it meets the condition. -/
theorem step_identified {cfg : Setup} (s : Session) (e : LoginEvent) (s' : Session) (h : Identified s)
    (hok : Undisturbed s e) (hs : s.step cfg e = some s') : Identified s' := by
  cases e with
  | firebaseCallback i authResult error =>
    obtain ⟨a, ha, ⟨user, c, hp, rfl, rfl, rfl⟩ | ⟨c, uid, hp, rfl, rfl, rfl⟩ | ⟨phase, cr, hw, rfl⟩⟩ :=
      firebaseCallback_cases hs
    · -- the user of the link is still the current one
      have hu : s.currentUser = some user := by
        simpa [Undisturbed, Session.MaySucceed, ha, hp] using hok
      exact Session.AllFor.update i a c hu (h.allFor hu)
    · have hall : s.AllFor uid := by simpa [Undisturbed, Session.MaySucceed, ha, hp] using hok
      exact Session.AllFor.update i a c rfl hall
    · exact h.setPhase i a hw
  | logInBasedOn cases input =>
    obtain ⟨-, rfl⟩ := by simpa [Session.step] using hs
    exact forall_mem_snoc_iff.2 ⟨h, by simp [begin_awaiting]⟩
  | providerCallback i payload =>
    obtain ⟨-, a, -, effects, -, -, rfl⟩ := by
      simpa [Session.step, Option.bind_eq_some_iff] using hs
    exact h.setPhase i a (after_awaiting (fun _ => rfl) _)
  | firebaseLogin i =>
    obtain ⟨hr, a, -, hs⟩ := by simpa [Session.step, Option.bind_eq_some_iff] using hs
    split at hs
    · obtain rfl := Option.some.inj hs; exact h.setPhase i a rfl
    · obtain rfl := Option.some.inj hs; exact h.setPhase i a rfl
    · cases hs
  | assign i =>
    obtain ⟨hr, a, -, hs⟩ := by simpa [Session.step, Option.bind_eq_some_iff] using hs
    split at hs
    · obtain rfl := Option.some.inj hs; exact h.setPhase i a rfl
    · obtain rfl := Option.some.inj hs; exact h.setPhase i a rfl
    · cases hs
  | zaloCallback i isSucess selfAlive =>
    obtain ⟨hr, a, -, hp, rfl⟩ := by simpa [Session.step, Option.bind_eq_some_iff] using hs
    exact h.setPhase i a rfl
  | logOut signOutThrows =>
    cases signOutThrows with
    | true =>
      obtain ⟨-, rfl⟩ := by simpa [Session.step] using hs
      exact h
    | false =>
      obtain ⟨-, rfl⟩ := by simpa [Session.step] using hs
      -- nobody waits, so signing out disturbs nobody
      intro a ha c hc
      rw [hok rfl a ha] at hc
      cases hc
  | sessionTimer =>
    obtain ⟨-, rfl⟩ := by simpa [Session.step] using hs
    exact h

/-- **Identity after login.** From any launch state, along every run whose steps all meet
`Undisturbed`, whenever an attempt sets `logInUserSuccessfully` to `true` the current user
is the account of the attempt's own credential. -/
theorem identity_along (cfg : Setup) (currentUser : Option String)
    (owner : AuthCredential → Option String) (es : List LoginEvent)
    (h : Along (Session.step cfg) Undisturbed (Session.launch currentUser owner) es) :
    Along (Session.step cfg) IdentityOK (Session.launch currentUser owner) es := by
  refine along_of_inv step_identified ?_ es (launch_identified currentUser owner) h
  intro s e hs hok c hc
  cases e with
  | assign i =>
    simp only [Session.setsTrue, Option.mem_def, Option.map_eq_some_iff, Option.bind_eq_some_iff] at hc
    obtain ⟨c, ⟨a, ha, hc⟩, rfl⟩ := hc
    obtain ⟨user, h1, h2⟩ := hs a (mem_of_slot ha) c hc
    exact ⟨user, h1, h2⟩
  | zaloCallback i isSucess selfAlive =>
    have hok : (isSucess && selfAlive) = false := hok
    simp [Session.setsTrue, hok] at hc
  | _ => simp [Session.setsTrue] at hc

/-- A Google login over a signed-out app, then a time-out and an e-mail login to another
account: both end with the right user. -/
theorem identity_along_two :
    Along (Session.step ⟨some "client", id⟩) IdentityOK
      (Session.launch none fun c => if c = .email "b@x" "pw" then some "B" else none)
      [.logInBasedOn .authGoogle ⟨none, none, ""⟩,
        .providerCallback 0 (.google (some ⟨⟨some "id", "token"⟩⟩) none),
        .firebaseLogin 0, .firebaseCallback 0 (some "A") none, .assign 0, .sessionTimer,
        .logInBasedOn .authEmail ⟨some "b@x", some "pw", ""⟩,
        .firebaseCallback 1 (some "B") none, .assign 1] :=
  identity_along _ _ _ _ (by decide)

/-- **A Zalo login is identified with nobody**: in a fresh app, ZaloSDK reports success,
`logInUserSuccessfully` becomes `true`, and no Firebase user is signed in. -/
theorem zalo_unidentified :
    ¬ Along (Session.step ⟨some "client", id⟩) IdentityOK (Session.launch none fun _ => none)
      [.logInBasedOn .authZalo ⟨none, none, ""⟩, .zaloCallback 0 true true] := by
  decide

/-- The other parts of the condition are needed too. Here a link ends after its user has signed out and
another one has signed in. -/
example :
    ¬ Along (Session.step ⟨some "client", id⟩) IdentityOK
      (Session.launch (some "A") fun c => if c = .email "b@x" "pw" then some "B" else none)
      [.logInBasedOn .authGoogle ⟨none, none, ""⟩,
        .providerCallback 0 (.google (some ⟨⟨some "id", "token"⟩⟩) none), .firebaseLogin 0,
        .logOut false, .logInBasedOn .authEmail ⟨some "b@x", some "pw", ""⟩,
        .firebaseCallback 1 (some "B") none, .assign 1, .firebaseCallback 0 (some "A") none, .assign 0] := by
  decide

/-- A sign-out between a Firebase result and its assignment. -/
example :
    ¬ Along (Session.step ⟨some "client", id⟩) IdentityOK (Session.launch none fun _ => some "A")
      [.logInBasedOn .authEmail ⟨some "a@x", some "pw", ""⟩, .firebaseCallback 0 (some "A") none,
        .logOut false, .assign 0] := by
  decide

/-- A sign-in to another account between them. -/
example :
    ¬ Along (Session.step ⟨some "client", id⟩) IdentityOK
      (Session.launch none fun c => if c = .email "b@x" "pw" then some "B" else some "A")
      [.logInBasedOn .authEmail ⟨some "a@x", some "pw", ""⟩,
        .logInBasedOn .authEmail ⟨some "b@x", some "pw", ""⟩, .firebaseCallback 0 (some "A") none,
        .firebaseCallback 1 (some "B") none, .assign 0] := by
  decide

end ArtExhibition
