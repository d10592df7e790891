import ArtExhibition.Machine.Slots
import ArtExhibition.Spec.AccountCreation

/-!
# What a failed account creation leaves behind

No step of `createNewUserNameInFireBase` takes an earlier one back, so a call that throws
after `createUser` leaves an account without document (`setData_failed`). What the function
keeps is `account_creation`: documents change only in a call that returns `true`,
accounts exactly in a call whose `createUser` succeeded, and in every reachable state an
account made by the function has its document iff the call that made it returned `true`.
-/

namespace ArtExhibition

open Machine

variable {challenge : String → String}

/-- `setData` writes the document and returns `true`, or changes nothing. -/
theorem setData_cases (backend : Backend) (userID : String) (data : Dictionary)
    (error : Option NSError) :
    let r := backend.setData userID data error
    (r.1 ≠ .returned true ∧ r.2 = backend) ∨
      (r.1 = .returned true ∧
        r.2 = { backend with documents := Function.update backend.documents userID (some data) }) := by
  unfold Backend.setData
  dsimp only
  split
  · exact .inl ⟨nofun, rfl⟩
  · cases error with
    | none => exact .inr ⟨rfl, rfl⟩
    | some error => exact .inl ⟨nofun, rfl⟩

/-- An await goes on with a value the continuation was resumed with, or ends the call there. -/
theorem await_cases {α : Type} (backend : Backend) (effects : List (Effect α))
    (next : α → CreateResult × Backend) :
    (∃ value, (execute effects).1.head? = some (.ok value) ∧ backend.await effects next = next value) ∨
      ((∀ success, (backend.await effects next).1 ≠ .returned success) ∧
        (backend.await effects next).2 = backend) := by
  unfold Backend.await
  split
  · exact .inr ⟨nofun, rfl⟩
  · rename_i value rest h
    exact .inl ⟨value, by simp [h], rfl⟩
  · exact .inr ⟨nofun, rfl⟩
  · exact .inr ⟨nofun, rfl⟩

/-- `createUser`'s closure goes on exactly when there is a result, with its uid. -/
theorem createUser_resumed {authResult : Option String} {error : Option NSError} {userID : String}
    (h : (execute (createUserCallback authResult error)).1.head? = some (.ok userID)) :
    authResult = some userID := by
  cases authResult <;> cases error <;> simp_all [createUserCallback, execute]

/-- A call made `account`: it is added, and either the call returned `true` and wrote its
document, or no document changed. -/
def Made (backend : Backend) (account : AuthAccount) (r : CreateResult × Backend) : Prop :=
  r.2.accounts = backend.accounts ++ [account] ∧
    ((r.1 ≠ .returned true ∧ r.2.documents = backend.documents) ∨
      r.1 = .returned true ∧
        ∃ data, r.2.documents = Function.update backend.documents account.uid (some data))

/-- The call ends right after its account is made. -/
theorem made_of_ends {backend : Backend} {account : AuthAccount} {r : CreateResult × Backend}
    (h1 : r.1 ≠ .returned true) (h2 : r.2 = { backend with accounts := backend.accounts ++ [account] }) :
    Made backend account r :=
  ⟨by rw [h2], .inl ⟨h1, by rw [h2]⟩⟩

theorem made_setData (backend : Backend) (account : AuthAccount) (data : Dictionary)
    (error : Option NSError) :
    Made backend account (({ backend with accounts := backend.accounts ++ [account] } : Backend).setData
      account.uid data error) := by
  rcases setData_cases { backend with accounts := backend.accounts ++ [account] } account.uid data error
    with ⟨h1, h2⟩ | ⟨h1, h2⟩
  · exact made_of_ends h1 h2
  · exact ⟨by rw [h2], .inr ⟨h1, data, by rw [h2]⟩⟩

/-- **What one call does.** Without a new account it changes nothing; with one, the account
is there, and either the call returned `true` and the document is written or no document is. -/
theorem createNewUser_cases (challenge : String → String) (user : NewUser) (outcomes : Outcomes) (backend : Backend) :
    let r := createNewUserNameInFireBase challenge user outcomes backend
    (outcomes.createUser.1 = none ∧ (∀ success, r.1 ≠ .returned success) ∧ r.2 = backend) ∨
      ∃ uid, outcomes.createUser.1 = some uid ∧
        Made backend ⟨uid, user.email, challenge user.password⟩ r := by
  unfold createNewUserNameInFireBase
  dsimp only
  rcases await_cases (backend.createUser user.email (challenge user.password) outcomes.createUser.1)
    (createUserCallback outcomes.createUser.1 outcomes.createUser.2) _ with
    ⟨userID, hresumed, hnext⟩ | ⟨hends, hsame⟩
  · -- the account is made and the call goes on
    rw [hnext]
    have huid := createUser_resumed hresumed
    refine .inr ⟨userID, huid, ?_⟩
    rw [huid]
    split
    · split
      · exact made_setData backend _ _ _
      · exact made_of_ends nofun rfl
    · rcases await_cases _ (uploadCallbacks outcomes) _ with ⟨imageURL, -, hnext⟩ | ⟨hends, hsame⟩
      · rw [hnext]
        exact made_setData backend _ _ _
      · exact made_of_ends (hends true) hsame
  · cases hres : outcomes.createUser.1 with
    | none =>
      rw [hres] at hends hsame
      exact .inl ⟨rfl, hends, hsame⟩
    | some uid =>
      rw [hres] at hends hsame
      exact .inr ⟨uid, rfl, made_of_ends (hends true) hsame⟩

/-- What a call promises: after `true` the account and its document exist; after `false` or
an error the documents are as before, and the accounts too unless `createUser` succeeded. -/
structure CallOK (challenge : String → String) (s : Creation) (call : CreateCall)
    (r : CreateResult × Backend) : Prop where
  created : r.1 = .returned true →
    ∃ account ∈ r.2.accounts, account.email = call.user.email ∧ (r.2.documents account.uid).isSome
  documents : (r.1 = .returned false ∨ ∃ error, r.1 = .threw error) →
    r.2.documents = s.backend.documents
  accounts : (r.1 = .returned false ∨ ∃ error, r.1 = .threw error) →
    r.2.accounts = s.backend.accounts ++ (call.outcomes.createUser.1.map fun uid =>
      ⟨uid, call.user.email, challenge call.user.password⟩).toList

theorem callOK (s : Creation) (call : CreateCall) : CallOK challenge s call
    (createNewUserNameInFireBase challenge call.user call.outcomes s.backend) := by
  rcases createNewUser_cases challenge call.user call.outcomes s.backend with
    ⟨hnone, hret, hsame⟩ | ⟨uid, huid, hacc, ⟨hret, hdoc⟩ | ⟨hret, data, hdoc⟩⟩
  · -- no account, and nothing else
    have haccounts : (call.outcomes.createUser.1.map fun uid =>
        (⟨uid, call.user.email, challenge call.user.password⟩ : AuthAccount)).toList = [] := by
      rw [hnone]
      rfl
    constructor
    · exact fun h => absurd h (hret true)
    · intro _
      rw [hsame]
    · intro _
      rw [hsame, haccounts, List.append_nil]
  · -- the account stays, and no document
    constructor
    · exact fun h => absurd h hret
    · exact fun _ => hdoc
    · intro _
      rw [hacc, huid]
      rfl
  · -- the account and its document
    have hfailed : ∀ result : CreateResult, result = .returned true →
        ¬ (result = .returned false ∨ ∃ error, result = .threw error) := by
      rintro result rfl
      simp
    constructor
    · intro _
      refine ⟨⟨uid, call.user.email, challenge call.user.password⟩, ?_, rfl, ?_⟩
      · rw [hacc]
        exact List.mem_append_right _ List.mem_cons_self
      · rw [hdoc, Function.update_self]
        rfl
    · exact fun h => absurd h (hfailed _ hret)
    · exact fun h => absurd h (hfailed _ hret)

/-- The reachable states, from `launch`: an account made by the function is there, and has its
document iff the call that made it returned `true`; every new document has its account. -/
structure Creation.OK (launch : Backend) (s : Creation) : Prop where
  account : ∀ m ∈ s.made, ∃ account ∈ s.backend.accounts, account.uid = m.1
  document : ∀ m ∈ s.made, (s.backend.documents m.1).isSome ↔ m.2 = .returned true
  owned : ∀ uid, (s.backend.documents uid).isSome →
    (launch.documents uid).isSome ∨ ∃ account ∈ s.backend.accounts, account.uid = uid

/-- **One call keeps the invariant.** -/
theorem step_ok {launch : Backend} (s : Creation) (call : CreateCall) (s' : Creation) (h : s.OK launch)
    (hs : s.step challenge call = some s') : s'.OK launch := by
  obtain ⟨hp, rfl⟩ := by simpa [Creation.step] using hs
  rcases createNewUser_cases challenge call.user call.outcomes s.backend with
    ⟨hnone, -, hsame⟩ | ⟨uid, huid, hacc, hdoc⟩
  · rw [hnone, hsame]
    simpa using h
  obtain ⟨hnew, hfresh⟩ := hp uid huid
  generalize createNewUserNameInFireBase challenge call.user call.outcomes s.backend = r at *
  -- the earlier accounts have other uids, so their documents stay
  have hother : ∀ m ∈ s.made, m.1 ≠ uid := by
    intro m hm he
    obtain ⟨account, ha, hau⟩ := h.account m hm
    exact (hfresh account ha).1 (hau.trans he)
  have hdocuments : ∀ uid', uid' ≠ uid → r.2.documents uid' = s.backend.documents uid' := by
    intro uid' hne
    rcases hdoc with ⟨-, hdoc⟩ | ⟨-, data, hdoc⟩
    · rw [hdoc]
    · rw [hdoc, Function.update_of_ne hne]
  have hwritten : (r.2.documents uid).isSome ↔ r.1 = .returned true := by
    rcases hdoc with ⟨hret, hdoc⟩ | ⟨hret, data, hdoc⟩
    · simp [hdoc, hnew, hret]
    · simp [hdoc, hret]
  have hmade : s.made ++ (call.outcomes.createUser.1.map fun uid => (uid, r.1)).toList =
      s.made ++ [(uid, r.1)] := by rw [huid]; rfl
  rw [hmade]
  refine ⟨?_, ?_, ?_⟩
  · refine forall_mem_snoc_iff.2 ⟨fun m hm => ?_, ?_⟩
    · obtain ⟨account, ha, hau⟩ := h.account m hm
      exact ⟨account, hacc ▸ List.mem_append_left _ ha, hau⟩
    · exact ⟨⟨uid, call.user.email, challenge call.user.password⟩,
        hacc ▸ List.mem_append_right _ List.mem_cons_self, rfl⟩
  · refine forall_mem_snoc_iff.2 ⟨fun m hm => ?_, hwritten⟩
    rw [hdocuments m.1 (hother m hm)]
    exact h.document m hm
  · intro uid' hsome
    by_cases he : uid' = uid
    · subst he
      exact .inr ⟨_, hacc ▸ List.mem_append_right _ List.mem_cons_self, rfl⟩
    · rw [hdocuments uid' he] at hsome
      rcases h.owned uid' hsome with hl | ⟨account, ha, hau⟩
      · exact .inl hl
      · exact .inr ⟨account, hacc ▸ List.mem_append_left _ ha, hau⟩

theorem launch_ok (launch : Backend) : (Creation.mk launch []).OK launch :=
  ⟨by simp, by simp, fun _ hd => .inl hd⟩

/-- **Account creation.** Over every sequence of calls, retries included, and every outcome
of their backend steps: each call keeps its promise, and every state reached is as
`Creation.OK` says. -/
theorem account_creation (challenge : String → String) (launch : Backend) {es : List CreateCall}
    {s : Creation} (h : run (Creation.step challenge) ⟨launch, []⟩ es = some s) :
    Along (Creation.step challenge) (fun s call => CallOK challenge s call
        (createNewUserNameInFireBase challenge call.user call.outcomes s.backend)) ⟨launch, []⟩ es ∧
      s.OK launch :=
  ⟨along_mono (fun s call _ => callOK s call) es (along_true _ _),
    run_inv (I := fun s : Creation => s.OK launch) step_ok es (launch_ok launch) h⟩

/-- A sign-up of `ann@x` without picture: the account is made, and `setData` answers as given. -/
def annCall (setData : Option NSError) : CreateCall where
  user := ⟨"ann@x", "secret", none, none, none⟩
  outcomes := ⟨(some "ann", none), (none, none), (none, none), setData⟩

/-- The retry of `ann@x`: Firebase refuses the e-mail. -/
def annRetry : CreateCall where
  user := ⟨"ann@x", "secret", none, none, none⟩
  outcomes := ⟨(none, some ⟨17007⟩), (none, none), (none, none), none⟩

def noBackend : Backend := ⟨[], fun _ => none⟩

theorem account_creation_retried : ∃ s : Creation,
    run (Creation.step id) ⟨noBackend, []⟩ [annCall (some ⟨14⟩), annRetry] = some s ∧
      s.made = [("ann", .threw ⟨14⟩)] ∧ s.OK noBackend := by
  obtain ⟨s, h, hm⟩ : ∃ s : Creation, run (Creation.step id) ⟨noBackend, []⟩
      [annCall (some ⟨14⟩), annRetry] = some s ∧ s.made = [("ann", .threw ⟨14⟩)] := ⟨_, rfl, rfl⟩
  exact ⟨s, h, hm, (account_creation id noBackend h).2⟩

/-- **Not all-or-nothing**: `setData` fails, the call throws, and the account stays without
document. -/
theorem setData_failed :
    let r := createNewUserNameInFireBase id (annCall (some ⟨14⟩)).user (annCall (some ⟨14⟩)).outcomes noBackend
    r.1 = .threw ⟨14⟩ ∧ r.2.accounts ≠ noBackend.accounts ∧
      ∃ account ∈ r.2.accounts, r.2.documents account.uid = none := by
  refine ⟨rfl, by decide, ⟨"ann", "ann@x", "secret"⟩, List.mem_cons_self, rfl⟩

end ArtExhibition
