import ArtExhibition.Proof.Challenge
import ArtExhibition.Proof.UserDocument
import ArtExhibition.Spec.SignIn

/-!
# Which password signs in, and what the settings then find

A sign-in that Firebase accepts is for an account, and the call that made this account decides both for
good, whatever it returned: the password has the digest of that call's password (`sign_up_then_sign_in`),
and the settings screen finds the user's document exactly if that call returned `true`. A retry with another
password changes nothing.
-/

namespace ArtExhibition

open Machine Wire

variable {challenge : String → String}

/-! ## One sign-in -/

/-- A login that returns `true` got a user from Firebase, and no error. -/
theorem logIn_returned {auth : PasswordSignIn} {email password : String} {backend : Backend}
    (h : logIn challenge auth email password backend = .returned true) :
    ∃ uid, auth.signIn backend.accounts email (challenge password) = (some uid, none) := by
  unfold logIn at h
  generalize auth.signIn backend.accounts email (challenge password) = answer at h ⊢
  obtain ⟨authResult, error⟩ := answer
  cases authResult with
  | none => cases error <;> cases h
  | some uid =>
    cases error with
    | none => exact ⟨uid, rfl⟩
    | some error => cases h

theorem challenge_inj (CC_SHA256 : Bytes → Vector UInt8 32) (p q : String) :
    AuthenticationViewModel.challenge CC_SHA256 p = AuthenticationViewModel.challenge CC_SHA256 q ↔
      CC_SHA256 (utf8 p) = CC_SHA256 (utf8 q) := by
  rw [← String.toList_inj, AuthenticationViewModel.challenge_eq, AuthenticationViewModel.challenge_eq]
  exact ⟨fun h => Vector.toList_inj.1 (AuthenticationViewModel.replaced_injective h), fun h => by rw [h]⟩

/-! ## One account -/

/-- What the call returns, whatever accounts there are. -/
def CreateCall.result (challenge : String → String) (call : CreateCall) : CreateResult :=
  (createNewUserNameInFireBase challenge call.user call.outcomes noBackend).1

/-- The document that the call leaves at its new uid. -/
def CreateCall.document (challenge : String → String) (call : CreateCall) (uid : String) :
    Option Dictionary :=
  if call.result challenge = .returned true then some (call.user.document uid call.imageURL) else none

/-- The account is the only one of its user, and this is the user's document. -/
structure Backend.Has (backend : Backend) (account : AuthAccount) (document : Option Dictionary) : Prop where
  mem : account ∈ backend.accounts
  only : ∀ other ∈ backend.accounts, other.uid = account.uid → other = account
  document : backend.documents account.uid = document

variable {s s' : Creation} {call : CreateCall} {account : AuthAccount} {document : Option Dictionary}

/-- **Later calls** leave an account and its document as they are. -/
theorem has_step (h : s.backend.Has account document) (hs : s.step challenge call = some s') :
    s'.backend.Has account document := by
  obtain ⟨hpermits, rfl⟩ := by simpa [Creation.step] using hs
  rcases createNewUser_cases challenge call.user call.outcomes s.backend with
    ⟨-, -, hsame⟩ | ⟨uid, huid, haccounts, hdocuments⟩
  · rw [hsame]
    exact h
  · obtain ⟨-, hnew⟩ := hpermits uid huid
    obtain ⟨huidNe, -⟩ := hnew account h.mem
    refine ⟨?_, ?_, ?_⟩
    · rw [haccounts]
      exact List.mem_append_left _ h.mem
    · rw [haccounts, forall_mem_snoc_iff]
      exact ⟨h.only, fun heq => absurd heq.symm huidNe⟩
    · rcases hdocuments with ⟨-, hsame⟩ | ⟨-, data, hwritten⟩
      · rw [hsame, h.document]
      · rw [hwritten, Function.update_of_ne huidNe, h.document]

theorem setData_result (backend backend' : Backend) (uid : String) (data : Dictionary)
    (error : Option NSError) :
    (backend.setData uid data error).1 = (backend'.setData uid data error).1 := by
  unfold Backend.setData
  split
  · rfl
  · cases error <;> rfl

theorem await_result {α : Type} (backend backend' : Backend) (effects : List (Effect α))
    {next next' : α → CreateResult × Backend} (h : ∀ value, (next value).1 = (next' value).1) :
    (backend.await effects next).1 = (backend'.await effects next').1 := by
  unfold Backend.await
  split
  · rfl
  · exact h _
  · rfl
  · rfl

/-- The result of a call does not depend on what is there. -/
theorem createNewUser_result (call : CreateCall) (backend : Backend) :
    (createNewUserNameInFireBase challenge call.user call.outcomes backend).1 = call.result challenge := by
  unfold CreateCall.result createNewUserNameInFireBase
  refine await_result _ _ _ fun uid => ?_
  dsimp only
  split
  · split
    · exact setData_result ..
    · rfl
  · exact await_result _ _ _ fun url => setData_result ..

/-- **The call that makes an account** leaves it alone with its e-mail, with the document that its
result promises. -/
theorem has_made (hs : s.step challenge call = some s') {uid : String}
    (huid : call.outcomes.createUser.1 = some uid) :
    s'.backend.Has ⟨uid, call.user.email, challenge call.user.password⟩ (call.document challenge uid) := by
  obtain ⟨hpermits, rfl⟩ := by simpa [Creation.step] using hs
  obtain ⟨hunwritten, hnew⟩ := hpermits uid huid
  have hresult := @createNewUser_result challenge call s.backend
  rcases createNewUser_cases challenge call.user call.outcomes s.backend with
    ⟨hnone, -, -⟩ | ⟨uid', huid', haccounts, hdocuments⟩
  · rw [hnone] at huid
    cases huid
  · obtain rfl := Option.some.inj (huid'.symm.trans huid)
    refine ⟨?_, ?_, ?_⟩
    · rw [haccounts]
      exact List.mem_append_right _ List.mem_cons_self
    · rw [haccounts, forall_mem_snoc_iff]
      exact ⟨fun other hother heq => absurd heq (hnew other hother).1, fun _ => rfl⟩
    · unfold CreateCall.document
      rw [← hresult]
      rcases hdocuments with ⟨hreturned, hsame⟩ | ⟨hreturned, -⟩
      · rw [if_neg hreturned, hsame, hunwritten]
      · rw [if_pos hreturned]
        obtain ⟨uid'', huid'', hwritten⟩ := written_document hreturned
        obtain rfl := Option.some.inj (huid''.symm.trans huid')
        exact hwritten

/-- A call makes at most one account, that of its `createUser`. -/
theorem step_account (hs : s.step challenge call = some s') (account : AuthAccount)
    (hmem : account ∈ s'.backend.accounts) :
    account ∈ s.backend.accounts ∨ call.outcomes.createUser.1 = some account.uid := by
  obtain ⟨-, rfl⟩ := by simpa [Creation.step] using hs
  rcases createNewUser_cases challenge call.user call.outcomes s.backend with
    ⟨-, -, hsame⟩ | ⟨uid, huid, haccounts, -⟩
  · rw [hsame] at hmem
    exact .inl hmem
  · rw [haccounts] at hmem
    rcases List.mem_append.1 hmem with hmem | hmem
    · exact .inl hmem
    · obtain rfl := List.mem_singleton.1 hmem
      exact .inr huid

/-! ## Runs -/

/-- **From the call that makes it on**, an account and its document stay. -/
theorem run_has {launch : Creation} {calls : List CreateCall}
    (hr : run (Creation.step challenge) launch calls = some s) (hcall : call ∈ calls) {uid : String}
    (huid : call.outcomes.createUser.1 = some uid) :
    s.backend.Has ⟨uid, call.user.email, challenge call.user.password⟩ (call.document challenge uid) := by
  obtain ⟨before, after, rfl⟩ := List.append_of_mem hcall
  obtain ⟨_, -, hr⟩ := run_append.1 hr
  obtain ⟨made, hs, hafter⟩ := run_cons.1 hr
  exact run_inv (I := fun t : Creation => t.backend.Has _ _) (fun _ _ _ h hs => has_step h hs) after
    (has_made hs huid) hafter

/-- Every account was there before, or a call made it. -/
theorem run_account {launch : Creation} {calls : List CreateCall}
    (hr : run (Creation.step challenge) launch calls = some s) :
    ∀ account ∈ s.backend.accounts, account ∈ launch.backend.accounts ∨
      ∃ call ∈ calls, call.outcomes.createUser.1 = some account.uid := by
  refine run_inv_forall (I := fun t : Creation => ∀ account ∈ t.backend.accounts,
      account ∈ launch.backend.accounts ∨ ∃ call ∈ calls, call.outcomes.createUser.1 = some account.uid)
    ?_ (fun _ => id) (fun account hmem => .inl hmem) hr
  intro t call t' h hcall hs account hmem
  rcases step_account hs account hmem with hmem | huid
  · exact h account hmem
  · exact .inr ⟨call, hcall, huid⟩

/-- What a round of the settings makes of a document. -/
theorem getUserInformationRound_document {providerID : String} (hprovider : providerID ≠ googleAuthProviderID)
    {input : RoundInput} {document : Option Dictionary} (hsnapshot : input.snapshot = some ⟨document⟩)
    (herror : input.error = none) :
    getUserInformationRound providerID input =
      (document.map fun dictionary => .save (.ofDictionary dictionary)).getD .ended := by
  unfold getUserInformationRound
  rw [if_neg hprovider, hsnapshot, herror]
  cases document <;> rfl

/-- **What a sign-up decides**: after any sign-up calls, those that failed and retries included, a login
that returns `true` is for a user who was there before or whom one of the calls made. For the user of a
call, the password has the digest of that call's, and the settings find the user's data exactly if the call
returned `true`; otherwise they never go on. -/
theorem sign_up_then_sign_in (CC_SHA256 : Bytes → Vector UInt8 32) (auth : PasswordSignIn)
    {launch : Creation} {calls : List CreateCall}
    (hr : run (Creation.step (AuthenticationViewModel.challenge CC_SHA256)) launch calls = some s)
    {email password : String}
    (hlogin : logIn (AuthenticationViewModel.challenge CC_SHA256) auth email password s.backend =
      .returned true) :
    ∃ uid, auth.signIn s.backend.accounts email (AuthenticationViewModel.challenge CC_SHA256 password) =
        (some uid, none) ∧
      ((∃ account ∈ launch.backend.accounts, account.uid = uid) ∨
        ∃ call ∈ calls, call.outcomes.createUser.1 = some uid) ∧
      ∀ call ∈ calls, call.outcomes.createUser.1 = some uid →
        CC_SHA256 (utf8 password) = CC_SHA256 (utf8 call.user.password) ∧
        ∀ providerID ≠ googleAuthProviderID, ∀ input : RoundInput,
          input.snapshot = some ⟨s.backend.documents uid⟩ → input.error = none →
          getUserInformationRound providerID input =
            if call.result (AuthenticationViewModel.challenge CC_SHA256) = .returned true then
              .save { call.user.model uid call.imageURL with fullName := "" }
            else .ended := by
  obtain ⟨uid, hanswer⟩ := logIn_returned hlogin
  obtain ⟨account, hmem, huid, hpassword⟩ :=
    auth.password s.backend.accounts email _ uid (congrArg Prod.fst hanswer)
  refine ⟨uid, hanswer, ?_, fun call hcall hmade => ?_⟩
  · rcases run_account hr account hmem with hbefore | ⟨call, hcall, hmade⟩
    · exact .inl ⟨account, hbefore, huid⟩
    · exact .inr ⟨call, hcall, huid ▸ hmade⟩
  · have hhas := run_has hr hcall hmade
    have hown := hhas.only account hmem huid
    refine ⟨?_, fun providerID hprovider input hsnapshot herror => ?_⟩
    · rw [← challenge_inj, ← hpassword, hown]
    · rw [hhas.document] at hsnapshot
      rw [getUserInformationRound_document hprovider hsnapshot herror, CreateCall.document]
      split
      · rw [← ofDictionary_document]
        rfl
      · rfl

/-- SHA-256 on two texts. -/
def digestOfSecret (data : Bytes) : Vector UInt8 32 :=
  if data = utf8 "secret" then
    #v[0x2b, 0xb8, 0x0d, 0x53, 0x7b, 0x1d, 0xa3, 0xe3, 0x8b, 0xd3, 0x03, 0x61, 0xaa, 0x85, 0x56, 0x86,
      0xbd, 0xe0, 0xea, 0xcd, 0x71, 0x62, 0xfe, 0xf6, 0xa2, 0x5f, 0xe9, 0x7b, 0xf5, 0x27, 0xa2, 0x5b]
  else
    -- that of "other"
    #v[0xd9, 0x29, 0x8a, 0x10, 0xd1, 0xb0, 0x73, 0x58, 0x37, 0xdc, 0x4b, 0xd8, 0x5d, 0xac, 0x64, 0x1b,
      0x0f, 0x3c, 0xef, 0x27, 0xa4, 0x7e, 0x5d, 0x53, 0xa5, 0x4f, 0x2f, 0x3f, 0x5b, 0x2f, 0xcf, 0xfa]

/-- The retry of `ann@x` with another password. -/
def annOther : CreateCall := { annRetry with user := { annRetry.user with password := "other" } }

/-- A sign-in that looks the account up, and refuses where there is none. -/
def lookUp : PasswordSignIn where
  signIn accounts email challenge :=
    match accounts.find? fun account => account.email = email ∧ account.password = challenge with
    | some account => (some account.uid, none)
    | none => (none, some ⟨17009⟩)
  password accounts email challenge uid h := by
    split at h
    · rename_i account hfind
      have hmatch := List.find?_some hfind
      simp only [Bool.decide_and, Bool.and_eq_true, decide_eq_true_eq] at hmatch
      exact ⟨account, List.mem_of_find?_eq_some hfind, Option.some.inj h, hmatch.2⟩
    · cases h

/-- The sign-up of `ann@x` throws, and so does a retry with another password: the first password signs
in all the same, the second does not, and the settings never go on. -/
theorem sign_up_then_sign_in_retried :
    ∃ s, run (Creation.step (AuthenticationViewModel.challenge digestOfSecret)) ⟨noBackend, []⟩
        [annCall (some ⟨14⟩), annOther] = some s ∧
      logIn (AuthenticationViewModel.challenge digestOfSecret) lookUp "ann@x" "secret" s.backend =
        .returned true ∧
      logIn (AuthenticationViewModel.challenge digestOfSecret) lookUp "ann@x" "other" s.backend ≠
        .returned true ∧
      getUserInformationRound "password" ⟨none, some ⟨s.backend.documents "ann"⟩, none, none, false⟩ =
        .ended := by
  obtain ⟨s, hr, haccounts⟩ : ∃ s,
      run (Creation.step (AuthenticationViewModel.challenge digestOfSecret)) ⟨noBackend, []⟩
        [annCall (some ⟨14⟩), annOther] = some s ∧
      s.backend.accounts = [⟨"ann", "ann@x", AuthenticationViewModel.challenge digestOfSecret "secret"⟩] :=
    ⟨_, rfl, rfl⟩
  have hlogin : logIn (AuthenticationViewModel.challenge digestOfSecret) lookUp "ann@x" "secret" s.backend =
      .returned true := by
    simp [logIn, lookUp, haccounts, authResultCallback, Backend.await, execute]
  -- the only account is the one of the first call
  have huid : ∀ challenge uid, lookUp.signIn s.backend.accounts "ann@x" challenge = (some uid, none) →
      uid = "ann" := by
    intro challenge uid hanswer
    obtain ⟨account, hmem, rfl, -⟩ := lookUp.password _ _ _ uid (congrArg Prod.fst hanswer)
    rw [haccounts, List.mem_singleton] at hmem
    rw [hmem]
  have hfirst : annCall (some ⟨14⟩) ∈ [annCall (some ⟨14⟩), annOther] := List.mem_cons_self
  refine ⟨s, hr, hlogin, fun hother => ?_, ?_⟩
  · obtain ⟨uid, hanswer, -, hcalls⟩ := sign_up_then_sign_in digestOfSecret lookUp hr hother
    obtain rfl := huid _ uid hanswer
    exact absurd (hcalls _ hfirst rfl).1 (by decide)
  · obtain ⟨uid, hanswer, -, hcalls⟩ := sign_up_then_sign_in digestOfSecret lookUp hr hlogin
    obtain rfl := huid _ uid hanswer
    exact ((hcalls _ hfirst rfl).2 "password" (by decide) _ rfl rfl).trans (if_neg (by rintro ⟨⟩))

end ArtExhibition
