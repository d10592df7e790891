import ArtExhibition.Machine.Slots
import ArtExhibition.Spec.Bridges

/-!
# Which callbacks complete their bridge

`Once` is what a bridge owes its task: one resumption, no trap, and the SDK's error thrown
if there is one. Each closure gives it on some payloads and not on others
(`once_createUser`, …): a missing result together with a missing error is cast to `Error`,
a cancelled Facebook login, a Google user without id token or a document without data is
dropped, and `downloadURL`'s own error is never read.

`bridges_complete_iff`: the bridges opened in a run are complete at its end exactly when
every delivered payload was one its closure answers (`Answered`).
-/

namespace ArtExhibition

open Machine

/-- One resumption and no trap; if the SDK reported an error, that error is thrown. -/
def Once {α : Type} (effects : List (Effect α)) (reported : Option NSError) : Prop :=
  ∃ r, execute effects = ([r], false) ∧ ∀ error ∈ reported, r = .error error

theorem once_throwing {α : Type} (error : NSError) (reported : Option NSError) :
    Once (α := α) [.throwing error] reported ↔ ∀ e ∈ reported, e = error := by
  simp [Once, execute, eq_comm]

theorem not_once_nil {α : Type} (reported : Option NSError) : ¬ Once (α := α) [] reported := by
  simp [Once, execute]

theorem not_once_asError {α : Type} (text : String) (reported : Option NSError) :
    ¬ Once (α := α) [.asError text] reported := by
  simp [Once, execute]

/-! ## Closure by closure

Only `putData`'s closure starts a nested call; the others complete their bridge on the payloads
that their lemma names. -/

theorem once_createUser (authResult : Option String) (error : Option NSError) :
    .downloadURL ∉ createUserCallback authResult error ∧
      (Once (createUserCallback authResult error) error ↔ authResult.isSome ≠ error.isSome) := by
  cases authResult <;> cases error <;> simp [createUserCallback, Once, execute]

theorem once_authResult (authResult : Option String) (error : Option NSError) :
    .downloadURL ∉ authResultCallback authResult error ∧
      (Once (authResultCallback authResult error) error ↔ authResult.isSome ∨ error.isSome) := by
  cases authResult <;> cases error <;> simp [authResultCallback, Once, execute]

/-- `putData`'s closure throws the error it was given or goes on to `downloadURL`. -/
theorem putData_cases (metadata : Option Unit) (error : Option NSError) :
    (error = none ∧ putDataCallback metadata error = [.downloadURL]) ∨
      ∃ e, error = some e ∧ putDataCallback metadata error = [.throwing e] := by
  cases metadata <;> cases error <;> simp [putDataCallback]

/-- The nested closure, run where the outer error is nil, looks only at the URL. -/
theorem once_downloadURL (url : Option String) (erro : Option NSError) :
    .downloadURL ∉ downloadURLCallback none url erro ∧
      (Once (downloadURLCallback none url erro) erro ↔ url.isSome ∧ erro = none) := by
  cases url <;> cases erro <;> simp [downloadURLCallback, Once, execute]

theorem once_google (user : Option GIDGoogleUser) (error : Option NSError) :
    .downloadURL ∉ googleCallback user error ∧
      (Once (googleCallback user error) error ↔
        error.isSome ∨ (user.bind (·.authentication.idToken)).isSome) := by
  rcases user with _ | ⟨_ | idToken, accessToken⟩ <;> cases error <;>
    simp [googleCallback, Once, execute]

theorem once_facebook (tokenString : Option String) (user : Option LoginManagerLoginResult)
    (error : Option NSError) :
    .downloadURL ∉ facebookCallback tokenString user error ∧
      (Once (facebookCallback tokenString user error) error ↔
        error.isSome ∨ tokenString.isSome ∧ user.map (·.isCancelled) = some false) := by
  rcases user with _ | ⟨_ | _⟩ <;> cases error <;> cases tokenString <;>
    simp [facebookCallback, Once, execute]

/-- The identity token of an Apple ID credential, if it has one that is UTF-8. -/
def ASAuthorizationCredential.idTokenString : ASAuthorizationCredential → Option String
  | .appleID identityToken => identityToken.bind String.fromUTF8?
  | .other => none

theorem once_appleAuthorization (nonce : String) (credential : ASAuthorizationCredential) :
    .downloadURL ∉ didCompleteWithAuthorization (some nonce) credential ∧
      (Once (didCompleteWithAuthorization (some nonce) credential) none ↔
        credential.idTokenString.isSome) := by
  rcases credential with (_ | token) | _
  · simp [didCompleteWithAuthorization, not_once_asError, ASAuthorizationCredential.idTokenString]
  · cases h : String.fromUTF8? token <;>
      simp [didCompleteWithAuthorization, h, Once, execute, ASAuthorizationCredential.idTokenString]
  · simp [didCompleteWithAuthorization, not_once_nil, ASAuthorizationCredential.idTokenString]

theorem once_getDocument (snapshot : Option DocumentSnapshot) (error : Option NSError) :
    .downloadURL ∉ getDocumentCallback snapshot error ∧
      (Once (getDocumentCallback snapshot error) error ↔
        (error.isSome ∧ snapshot = none) ∨ (error = none ∧ (snapshot.bind (·.data)).isSome)) := by
  rcases snapshot with _ | ⟨_ | data⟩ <;> cases error <;> simp [getDocumentCallback, Once, execute]

/-! ## Runs -/

theorem execute_erase {α : Type} (effects : List (Effect α)) :
    execute (effects.map .erase) =
      ((execute effects).1.map (Except.map fun _ => ()), (execute effects).2) := by
  induction effects with
  | nil => rfl
  | cons effect effects ih => cases effect <;> simp [execute, Effect.erase, ih, Except.map]

/-- Forgetting the returned value changes nothing about completion. -/
theorem once_erase {α : Type} (effects : List (Effect α)) (reported : Option NSError) :
    Once (effects.map .erase) reported ↔ Once effects reported := by
  have hmap : ∀ (r : Except NSError α) (e : NSError),
      r.map (fun _ => ()) = .error e ↔ r = .error e := by
    intro r e; cases r <;> simp [Except.map]
  unfold Once
  rw [execute_erase]
  constructor
  · rintro ⟨r, h, hr⟩
    obtain ⟨h1, h2⟩ := Prod.mk.inj h
    obtain ⟨a, ha, rfl⟩ := List.map_eq_singleton_iff.1 h1
    exact ⟨a, Prod.ext ha h2, fun e he => (hmap a e).1 (hr e he)⟩
  · rintro ⟨r, h, hr⟩
    rw [h]
    exact ⟨_, rfl, fun e he => (hmap r e).2 (hr e he)⟩

/-- A continuation whose callback has been delivered has been resumed exactly once, with
the error that the SDK reported if it reported one. -/
def Continuation.Complete (k : Continuation) : Prop :=
  ∀ reported, k.stage = .delivered reported →
    ∃ r, k.resumes = [r] ∧ ∀ error ∈ reported, r = .error error

/-- **Every bridge completes exactly once**: no trap was reached, every delivered
continuation is complete, every group's `enter`s are matched by `leave`s. -/
structure Bridges.Complete (s : Bridges) : Prop where
  running : s.crashed = false
  continuations : ∀ k ∈ s.continuations, k.Complete
  groups : ∀ g ∈ s.groups, g.count .enter = g.count .leave

/-- The payloads that the closure of a bridge answers. -/
def Payload.Answers (delegateHeld : Bool) (bridge : Bridge) : Payload → Prop
  | .authResult result error =>
    if bridge = .createUser then result.isSome ≠ error.isSome
    else result.isSome ∨ error.isSome
  | .putData _ _ => True
  | .downloadURL url erro => url.isSome ∧ erro = none
  | .google user error => error.isSome ∨ (user.bind (·.authentication.idToken)).isSome
  | .facebook tokenString user error =>
    error.isSome ∨ tokenString.isSome ∧ user.map (·.isCancelled) = some false
  | .appleAuthorization credential => delegateHeld ∧ credential.idTokenString.isSome
  | .appleError _ => delegateHeld
  | .getDocument snapshot error =>
    (error.isSome ∧ snapshot = none) ∨ (error = none ∧ (snapshot.bind (·.data)).isSome)

instance (delegateHeld : Bool) (bridge : Bridge) :
    ∀ payload : Payload, Decidable (payload.Answers delegateHeld bridge)
  | .authResult result error =>
    inferInstanceAs (Decidable (if bridge = .createUser then result.isSome ≠ error.isSome
      else result.isSome ∨ error.isSome))
  | .putData _ _ => .isTrue trivial
  | .downloadURL url erro => inferInstanceAs (Decidable (url.isSome ∧ erro = none))
  | .google user error =>
    inferInstanceAs (Decidable (error.isSome ∨ (user.bind (·.authentication.idToken)).isSome))
  | .facebook tokenString user error =>
    inferInstanceAs (Decidable
      (error.isSome ∨ tokenString.isSome ∧ user.map (·.isCancelled) = some false))
  | .appleAuthorization credential =>
    inferInstanceAs (Decidable (delegateHeld ∧ credential.idTokenString.isSome))
  | .appleError _ => inferInstanceAs (Decidable (delegateHeld = true))
  | .getDocument snapshot error =>
    inferInstanceAs (Decidable
      ((error.isSome ∧ snapshot = none) ∨ (error = none ∧ (snapshot.bind (·.data)).isSome)))

/-- The condition on a step: a delivered payload is one that its closure answers, with its
delegate still held; the login screen's block runs with a saved login and a live screen. -/
def Answered (s : Bridges) : BridgeEvent → Prop
  | .deliver i payload =>
    ∀ k ∈ s.continuations[i]?, payload.Answers (s.delegateHeld i k.bridge) k.bridge
  | .checkUserDidLogIn isSavedLogin selfAlive => isSavedLogin ∧ selfAlive
  | _ => True

instance (s : Bridges) : ∀ e : BridgeEvent, Decidable (Answered s e)
  | .deliver i payload =>
    inferInstanceAs (Decidable
      (∀ k ∈ s.continuations[i]?, payload.Answers (s.delegateHeld i k.bridge) k.bridge))
  | .checkUserDidLogIn isSavedLogin selfAlive =>
    inferInstanceAs (Decidable (isSavedLogin ∧ selfAlive))
  | .start _ | .loginWithZalo => .isTrue trivial

/-- Before its last callback a continuation has not been resumed, and `downloadURL` is
called only where `putData` reported no error. -/
def Continuation.Fresh (k : Continuation) : Prop :=
  match k.stage with
  | .asked => k.resumes = []
  | .askedURL error => k.resumes = [] ∧ error = none
  | .delivered _ => True

/-- What the last callback of a continuation does to it. -/
def LastCallback (effects : List (Effect Unit)) (reported : Option NSError) (answers : Prop) : Prop :=
  .downloadURL ∉ effects ∧ (Once effects reported ↔ answers)

theorem lastCallback_erase {α : Type} {effects : List (Effect α)} {reported : Option NSError}
    {answers : Prop} (h : .downloadURL ∉ effects ∧ (Once effects reported ↔ answers)) :
    LastCallback (effects.map .erase) reported answers := by
  obtain ⟨hd, hiff⟩ := h
  refine ⟨fun hm => ?_, (once_erase effects reported).trans hiff⟩
  obtain ⟨effect, he, heq⟩ := List.mem_map.1 hm
  cases effect <;> simp_all [Effect.erase]

/-- A payload that finds no delegate runs nothing. -/
theorem lastCallback_dropped (reported : Option NSError) {answers : Prop} (h : ¬ answers) :
    LastCallback [] reported answers :=
  ⟨by simp, iff_of_false (not_once_nil reported) h⟩

/-- **What a payload does to its continuation**: either it is `putData`'s and a nested call
starts, or it was the last callback and completes the bridge exactly when it is answered. -/
theorem respond_cases {k : Continuation} (hk : k.Fresh) {held : Bool} {payload : Payload}
    {effects : List (Effect Unit)} (h : k.respond held payload = some effects) :
    k.resumes = [] ∧ (∀ reported, k.stage ≠ .delivered reported) ∧
      ((effects = [.downloadURL] ∧ payload.reported = none ∧ payload.Answers held k.bridge) ∨
        LastCallback effects payload.reported (payload.Answers held k.bridge)) := by
  obtain ⟨bridge, stage, resumes⟩ := k
  unfold Continuation.respond at h
  split at h <;> dsimp only at * <;> subst_vars
  · obtain rfl := Option.some.inj h
    exact ⟨rfl, nofun, .inr (lastCallback_erase (once_createUser _ _))⟩
  · rename_i metadata error
    obtain rfl := Option.some.inj h
    refine ⟨rfl, nofun, ?_⟩
    rcases putData_cases metadata error with ⟨rfl, he⟩ | ⟨e, rfl, he⟩
    · exact .inl ⟨by rw [he]; rfl, rfl, trivial⟩
    · refine .inr (lastCallback_erase ?_)
      simp [he, once_throwing, Payload.reported, Payload.Answers]
  · obtain ⟨hr, rfl⟩ := hk
    obtain rfl := Option.some.inj h
    exact ⟨hr, nofun, .inr (lastCallback_erase (once_downloadURL _ _))⟩
  iterate 3
    · obtain rfl := Option.some.inj h
      exact ⟨rfl, nofun, .inr (lastCallback_erase (once_authResult _ _))⟩
  · obtain rfl := Option.some.inj h
    exact ⟨rfl, nofun, .inr (lastCallback_erase (once_google _ _))⟩
  · obtain rfl := Option.some.inj h
    exact ⟨rfl, nofun, .inr (lastCallback_erase (once_facebook _ _ _))⟩
  · rename_i nonce credential
    obtain rfl := Option.some.inj h
    refine ⟨rfl, nofun, .inr ?_⟩
    cases held with
    | true =>
      refine lastCallback_erase ?_
      simpa [Payload.Answers, Payload.reported] using once_appleAuthorization nonce credential
    | false => exact lastCallback_dropped _ (by simp [Payload.Answers])
  · rename_i error
    obtain rfl := Option.some.inj h
    refine ⟨rfl, nofun, .inr ?_⟩
    cases held with
    | true =>
      refine lastCallback_erase ?_
      simp [didCompleteWithError, once_throwing, Payload.reported, Payload.Answers]
    | false => exact lastCallback_dropped _ (by simp [Payload.Answers])
  · obtain rfl := Option.some.inj h
    exact ⟨rfl, nofun, .inr (lastCallback_erase (once_getDocument _ _))⟩
  · cases h

/-- What the invariant of a run says of the state. -/
def Bridges.Fresh (s : Bridges) : Prop := ∀ k ∈ s.continuations, k.Fresh

theorem complete_pending {bridge : Bridge} {stage : Stage} {resumes : List (Except NSError Unit)}
    (h : ∀ reported, stage ≠ .delivered reported) : (Continuation.mk bridge stage resumes).Complete :=
  fun reported hr => (h reported hr).elim

/-- **One delivery.** What is left of continuation `i` after a payload, and whether it is
complete and the program still running. -/
theorem deliver_cases {s s' : Bridges} (hs : s.Fresh) {i : ℕ} {payload : Payload}
    (h : s.step (.deliver i payload) = some s') :
    ∃ k k', s.continuations[i]? = some k ∧ k.Complete ∧ k'.Fresh ∧
      s'.continuations = s.continuations.set i k' ∧ s'.groups = s.groups ∧
      ((s'.crashed = false ∧ k'.Complete) ↔ payload.Answers (s.delegateHeld i k.bridge) k.bridge) := by
  simp only [Bridges.step, Option.bind_eq_bind, Option.ite_none_left_eq_some, Option.bind_eq_some_iff,
    Option.some.injEq] at h
  obtain ⟨-, k, hi, effects, hr, rfl⟩ := h
  obtain ⟨hempty, hpending, hcases⟩ := respond_cases (hs k (mem_of_slot hi)) hr
  refine ⟨k, _, hi, complete_pending hpending, ?_, rfl, rfl, ?_⟩
  · rcases hcases with ⟨rfl, hrep, -⟩ | ⟨hd, -⟩
    · simp [Continuation.Fresh, Stage.after, hempty, hrep, execute]
    · simp [Continuation.Fresh, Stage.after, hd]
  · rcases hcases with ⟨rfl, hrep, ha⟩ | ⟨hd, hiff⟩
    · simp [Continuation.Complete, Stage.after, hempty, execute, ha]
    · rw [← hiff]
      simp only [hempty, List.nil_append, Bool.or_eq_false_iff, decide_eq_false_iff_not, Stage.after,
        if_neg hd, Continuation.Complete, Stage.delivered.injEq, forall_eq']
      constructor
      · rintro ⟨⟨htrap, -⟩, r, hr, hrep⟩
        exact ⟨r, Prod.ext hr htrap, hrep⟩
      · rintro ⟨r, hr, hrep⟩
        rw [hr]
        exact ⟨⟨rfl, by simp⟩, r, rfl, hrep⟩

theorem step_fresh (s : Bridges) (e : BridgeEvent) (s' : Bridges) (hs : s.Fresh)
    (h : s.step e = some s') : s'.Fresh := by
  cases e with
  | deliver i payload =>
    obtain ⟨k, k', hi, -, hk', hset, -⟩ := deliver_cases hs h
    unfold Bridges.Fresh
    rw [hset]
    exact forall_mem_set_of hs hk'
  | start bridge =>
    obtain ⟨-, rfl⟩ := by simpa [Bridges.step] using h
    exact forall_mem_snoc_iff.2 ⟨hs, rfl⟩
  | _ =>
    obtain ⟨-, rfl⟩ := by simpa [Bridges.step] using h
    exact hs

theorem balanced_checkUserDidLogInBlock (isSavedLogin selfAlive : Bool) :
    (checkUserDidLogInBlock isSavedLogin selfAlive).count .enter =
        (checkUserDidLogInBlock isSavedLogin selfAlive).count .leave ↔
      isSavedLogin ∧ selfAlive := by
  cases isSavedLogin <;> cases selfAlive <;> decide

theorem complete_iff (s : Bridges) : s.Complete ↔
    s.crashed = false ∧ (∀ k ∈ s.continuations, k.Complete) ∧
      ∀ g ∈ s.groups, g.count .enter = g.count .leave :=
  ⟨fun h => ⟨h.1, h.2, h.3⟩, fun h => ⟨h.1, h.2.1, h.2.2⟩⟩

/-- **One step loses completeness exactly when it breaks the condition.** -/
theorem step_complete_iff (s : Bridges) (e : BridgeEvent) (s' : Bridges) (hs : s.Fresh)
    (h : s.step e = some s') : s'.Complete ↔ s.Complete ∧ Answered s e := by
  have hrun : s.crashed = false := by
    by_contra hc
    simp only [Bool.not_eq_false] at hc
    simp [Bridges.step, hc] at h
  simp only [complete_iff, hrun, true_and]
  cases e with
  | start bridge =>
    obtain ⟨-, rfl⟩ := by simpa [Bridges.step] using h
    simp only [forall_mem_snoc_iff, hrun, Answered]
    have hk : (Continuation.mk bridge .asked []).Complete := complete_pending nofun
    tauto
  | deliver i payload =>
    obtain ⟨k, k', hi, hk, -, hset, hg, hiff⟩ := deliver_cases hs h
    have ha : Answered s (.deliver i payload) ↔ s'.crashed = false ∧ k'.Complete := by
      rw [hiff]; simp [Answered, hi]
    rw [ha, hset, hg, forall_mem_set_iff hi hk]
    tauto
  | checkUserDidLogIn isSavedLogin selfAlive =>
    obtain ⟨-, rfl⟩ := by simpa [Bridges.step] using h
    simp only [forall_mem_snoc_iff, hrun, balanced_checkUserDidLogInBlock, Answered]
    tauto
  | loginWithZalo =>
    obtain ⟨-, rfl⟩ := by simpa [Bridges.step] using h
    have hz : loginWithZaloGroup.count .enter = loginWithZaloGroup.count .leave := by decide
    simp only [forall_mem_snoc_iff, hrun, hz, Answered]
    tauto

theorem launch_fresh : Bridges.launch.Fresh := by simp [Bridges.Fresh, Bridges.launch]

theorem launch_complete : Bridges.launch.Complete := by simp [complete_iff, Bridges.launch]

/-- **Every bridge completes exactly once, exactly when every payload is answered.** At the
end of a run from the launch: no trap was reached, every delivered continuation has been
resumed once and with the SDK's error if there was one, and every group is balanced — if
and only if each delivered payload was one that its closure answers, and the login
screen's block always ran with a saved login and its screen alive. -/
theorem bridges_complete_iff {es : List BridgeEvent} {s : Bridges}
    (h : run Bridges.step Bridges.launch es = some s) :
    s.Complete ↔ Along Bridges.step Answered Bridges.launch es := by
  rw [holds_iff_along (P := Bridges.Complete) step_fresh step_complete_iff es launch_fresh h]
  simp only [launch_complete, true_and]

/-- A sign-up with a picture, and a Google login that fails meanwhile. -/
def signUpRun : List BridgeEvent :=
  [.start .createUser, .start .google, .deliver 0 (.authResult (some "ann") none), .start .upload,
    .deliver 2 (.putData (some ()) none), .deliver 1 (.google none (some ⟨-5⟩)),
    .deliver 2 (.downloadURL (some "https://pic") none)]

theorem bridges_complete_signUp :
    ∃ s, run Bridges.step Bridges.launch signUpRun = some s ∧ s.Complete := by
  obtain ⟨s, h⟩ : ∃ s, run Bridges.step Bridges.launch signUpRun = some s := ⟨_, rfl⟩
  exact ⟨s, h, (bridges_complete_iff h).2 (by decide)⟩

/-- A cancelled Facebook login is never resumed, and the error of a failed `downloadURL` is
lost in a failed cast. -/
theorem facebook_cancelled_downloadURL_failed :
    (∃ s, run Bridges.step Bridges.launch
      [.start .facebook, .deliver 0 (.facebook none (some ⟨true⟩) none)] = some s ∧
      s.crashed = false ∧ ¬ s.Complete) ∧
    ∃ s, run Bridges.step Bridges.launch
      [.start .upload, .deliver 0 (.putData (some ()) none),
        .deliver 0 (.downloadURL none (some ⟨-13040⟩))] = some s ∧ s.crashed = true ∧ ¬ s.Complete := by
  refine ⟨⟨_, rfl, rfl, fun h => ?_⟩, ⟨_, rfl, rfl, fun h => ?_⟩⟩
  · obtain ⟨r, hr, -⟩ := h.continuations _ List.mem_cons_self none rfl
    cases hr
  · cases h.running

end ArtExhibition
