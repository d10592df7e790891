import ArtExhibition.Machine.Slots
import ArtExhibition.Proof.Keychain
import ArtExhibition.Spec.UserInformation
import Mathlib.Order.Bounds.Basic

/-!
# Whose password an enrolment stores

`EnrolledOK` says of a step that a password it stores is keyed by the signed-in account's
e-mail and that no other key's password changes. The second part always holds
(`savePasswordInKeychain_other`); the first depends on the rows of earlier accounts:
the key is the least stored e-mail (`fetch_head_email`).

`enrolled_iff`: `EnrolledOK` holds along a run exactly when every password that the
keychain accepts is enrolled while the account's own e-mail is the least stored one
(`EmailLeast`). Two accounts are enough to break it (`second_account_enrolled`).
-/

namespace ArtExhibition

open Machine

/-- All rows that a fetch returns. -/
def UserStore.rows (store : UserStore) : List User := store.persisted ++ store.pending

/-- The e-mails of the rows. -/
def UserStore.Email (store : UserStore) : Set String := {email | ∃ row ∈ store.rows, row.email = some email}

/-! ## The first row of a fetch -/

theorem emailAscending_total (a b : User) : a.emailAscending b ∨ b.emailAscending a := by
  unfold User.emailAscending
  cases a.email <;> cases b.email <;> simp [le_total]

theorem emailAscending_trans {a b c : User} (hab : a.emailAscending b) (hbc : b.emailAscending c) :
    a.emailAscending c := by
  unfold User.emailAscending at *
  cases ha : a.email <;> cases hb : b.email <;> cases hc : c.email <;>
    simp_all only [decide_eq_true_eq, Bool.false_eq_true]
  exact le_trans hab hbc

instance : Std.Total fun a b : User => a.emailAscending b = true := ⟨emailAscending_total⟩

instance : IsTrans User fun a b => a.emailAscending b = true :=
  ⟨fun _ _ _ => emailAscending_trans⟩

/-- **The first fetched e-mail is the least stored one.** -/
theorem fetch_head_email {store : UserStore} (h : ∀ row ∈ store.rows, row.email.isSome) (email : String) :
    store.fetch.head?.bind User.email = some email ↔ IsLeast store.Email email := by
  have hmem : ∀ row, row ∈ store.fetch ↔ row ∈ store.rows := fun row =>
    List.mem_insertionSort fun a b : User => a.emailAscending b = true
  have hsorted : store.fetch.Pairwise fun a b => a.emailAscending b = true :=
    List.pairwise_insertionSort _ _
  cases hf : store.fetch with
  | nil =>
    simp only [List.head?_nil, Option.bind_none, reduceCtorEq, false_iff]
    rintro ⟨⟨row, hrow, -⟩, -⟩
    rw [← hmem, hf] at hrow
    cases hrow
  | cons first rest =>
    have hfirst : first ∈ store.rows := (hmem first).1 (hf ▸ List.mem_cons_self)
    obtain ⟨e, he⟩ := Option.isSome_iff_exists.1 (h first hfirst)
    -- the first row of a sorted table has the least e-mail, as no row is without one
    have hleast : IsLeast store.Email e := by
      refine ⟨⟨first, hfirst, he⟩, ?_⟩
      rintro e' ⟨row, hrow, he'⟩
      rw [← hmem, hf] at hrow
      rcases List.mem_cons.1 hrow with rfl | hrow
      · rw [he, Option.some.injEq] at he'
        exact he'.le
      · have hle := (List.pairwise_cons.1 (hf ▸ hsorted)).1 row hrow
        simpa [User.emailAscending, he, he'] using hle
    simp only [List.head?_cons, Option.bind_some, he, Option.some.injEq]
    exact ⟨fun h => h ▸ hleast, fun h => hleast.unique h⟩

/-! ## One enrolment -/

/-- The keychain accepts a password under `email`. -/
def Device.Accepts (device : Device) (email password : String) (faults : AddFaults)
    (keychain : Keychain) : Prop :=
  ∃ ok, (device.firebaseKeychain.addPasswordToKeychains device email password faults keychain).1 = .ok ok

variable {device : Device} {store : UserStore} {password : Option String} {faults : AddFaults}
  {keychain : Keychain}

/-- **The key of an enrolment.** -/
theorem savePasswordInKeychain_key (h : ∀ row ∈ store.rows, row.email.isSome) (key : String) :
    (device.savePasswordInKeychain store password faults keychain).2 = some key ↔
      IsLeast store.Email key ∧ ∃ p ∈ password, p ≠ "" ∧ device.Accepts key p faults keychain := by
  rw [← fetch_head_email h]
  unfold Device.savePasswordInKeychain
  cases store.fetch.head?.bind User.email with
  | none => simp
  | some email =>
    cases password with
    | none => simp
    | some p =>
      simp only [Option.mem_def, Option.some.injEq, exists_eq_left', Device.Accepts,
        String.isEmpty_iff]
      by_cases hp : p = ""
      · simp [hp]
      · simp only [ne_eq, hp, not_false_eq_true, true_and]
        split <;> grind

/-- An enrolment affects no key but the one it writes under. -/
theorem savePasswordInKeychain_other {other : String}
    (h : ∀ key ∈ (device.savePasswordInKeychain store password faults keychain).2, other ≠ key) :
    (device.savePasswordInKeychain store password faults keychain).1.ofAccount other =
      keychain.ofAccount other := by
  unfold Device.savePasswordInKeychain at *
  cases hf : store.fetch.head?.bind User.email with
  | none => rfl
  | some email =>
    cases password with
    | none => rfl
    | some p =>
      simp only [hf] at h ⊢
      by_cases hp : p.isEmpty
      · simp [hp]
      · rw [if_neg hp] at h ⊢
        split at h
        · rename_i hadd
          have hother := addPasswordToKeychains_other device device.firebaseKeychain (h email rfl) p
            faults keychain
          rw [hadd] at hother
          exact hother
        · rename_i hadd
          rw [addPasswordToKeychains_throws hadd]

/-! ## Runs -/

/-- The key that an event writes a password under. -/
def Enrolment.written (device : Device) (s : Enrolment) : EnrolmentEvent → Option String
  | .savePasswordInKeychain password faults =>
    (device.savePasswordInKeychain s.store password faults s.keychain).2
  | _ => none

/-- **Under the right account**: what an event writes to the keychain is keyed by the e-mail
of the signed-in account, and what is found under any other key stays. -/
def EnrolledOK (device : Device) (s : Enrolment) (e : EnrolmentEvent) : Prop :=
  ∀ account ∈ s.currentUser, (∀ key ∈ s.written device e, key = account.email) ∧
    ∀ s' ∈ s.step device e, ∀ key, key ≠ account.email →
      device.firebaseKeychain.findPasswordInKeychains device key none s'.keychain =
        device.firebaseKeychain.findPasswordInKeychains device key none s.keychain

/-- The condition on an enrolment of a non-empty password: the least e-mail among the rows,
if the keychain accepts the password under it, is the signed-in account's. -/
def EmailLeast (device : Device) (s : Enrolment) : EnrolmentEvent → Prop
  | .savePasswordInKeychain password faults =>
    ∀ account ∈ s.currentUser, ∀ p ∈ password, p ≠ "" → ∀ email, IsLeast s.store.Email email →
      device.Accepts email p faults s.keychain → email = account.email
  | _ => True

/-- Every row has an e-mail: `getUserInformation` saves no other. -/
def Enrolment.Emailed (s : Enrolment) : Prop := ∀ row ∈ s.store.rows, row.email.isSome

theorem rows_save (store : UserStore) (user : User) (saveThrows : Bool) :
    (store.save user saveThrows).2.rows = store.rows ++ [user] := by
  cases saveThrows <;> simp [UserStore.save, UserStore.rows]

/-- **What one event does** to the rows and the keychain: a round may save a row, and an
enrolment may write a password. -/
theorem enrolment_step_cases {s s' : Enrolment} {e : EnrolmentEvent} (hs : s.step device e = some s') :
    match e with
    | .signIn _ | .signOut | .getUserInformation => s'.store = s.store ∧ s'.keychain = s.keychain
    | .round _ _ => s'.keychain = s.keychain ∧ (s'.store = s.store ∨
        ∃ user profileImage saveThrows,
          s'.store = (s.store.save (UserModel.row user profileImage) saveThrows).2)
    | .savePasswordInKeychain password faults => s'.store = s.store ∧
        s'.keychain = (device.savePasswordInKeychain s.store password faults s.keychain).1 := by
  unfold Enrolment.step at hs
  split at hs
  · cases hs
  cases e with
  | signIn account =>
    obtain rfl := Option.some.inj hs
    exact ⟨rfl, rfl⟩
  | signOut =>
    obtain rfl := Option.some.inj hs
    exact ⟨rfl, rfl⟩
  | getUserInformation =>
    dsimp only at hs ⊢
    split at hs
    all_goals
      obtain rfl := Option.some.inj hs
      exact ⟨rfl, rfl⟩
  | round i input =>
    dsimp only at hs ⊢
    split at hs
    · -- the last round: the call returns
      obtain rfl := Option.some.inj hs
      exact ⟨rfl, .inl rfl⟩
    · split at hs
      · rename_i user _
        obtain rfl := Option.some.inj hs
        exact ⟨rfl, .inr ⟨user, input.profileImage, input.saveThrows, rfl⟩⟩
      all_goals
        obtain rfl := Option.some.inj hs
        exact ⟨rfl, .inl rfl⟩
    · cases hs
  | savePasswordInKeychain password faults =>
    dsimp only at hs ⊢
    split at hs
    · obtain rfl := Option.some.inj hs
      exact ⟨rfl, rfl⟩
    · cases hs

theorem step_emailed (s : Enrolment) (e : EnrolmentEvent) (s' : Enrolment) (h : s.Emailed)
    (hs : s.step device e = some s') : s'.Emailed := by
  have hcases := enrolment_step_cases hs
  have hsame : s'.store = s.store → s'.Emailed := by
    intro hstore
    unfold Enrolment.Emailed
    rw [hstore]
    exact h
  cases e with
  | signIn account => exact hsame hcases.1
  | signOut => exact hsame hcases.1
  | getUserInformation => exact hsame hcases.1
  | savePasswordInKeychain password faults => exact hsame hcases.1
  | round i input =>
    obtain ⟨-, hstore | ⟨user, profileImage, saveThrows, hstore⟩⟩ := hcases
    · exact hsame hstore
    · -- the one event that adds a row
      unfold Enrolment.Emailed
      rw [hstore, rows_save, forall_mem_snoc_iff]
      exact ⟨h, rfl⟩

/-- An event that writes under no other key than the account's leaves the others as they were. -/
theorem step_other {s s' : Enrolment} {e : EnrolmentEvent} (hs : s.step device e = some s')
    {other : String} (h : ∀ key ∈ s.written device e, other ≠ key) :
    s'.keychain.ofAccount other = s.keychain.ofAccount other := by
  have hcases := enrolment_step_cases hs
  cases e with
  | signIn account => rw [hcases.2]
  | signOut => rw [hcases.2]
  | getUserInformation => rw [hcases.2]
  | round i input => rw [hcases.1]
  | savePasswordInKeychain password faults =>
    rw [hcases.2]
    exact savePasswordInKeychain_other h

/-- **One step** is right exactly when it meets the condition. -/
theorem enrolledOK_iff (s : Enrolment) (e : EnrolmentEvent) (h : s.Emailed) :
    EnrolledOK device s e ↔ EmailLeast device s e := by
  -- what other keys find is never in question
  have hwritten : EnrolledOK device s e ↔
      ∀ account ∈ s.currentUser, ∀ key ∈ s.written device e, key = account.email := by
    refine ⟨fun hok account ha => (hok account ha).1, fun hok account ha => ⟨hok account ha, ?_⟩⟩
    intro s' hs key hne
    refine findPasswordInKeychains_congr _ _ _ _ (step_other hs fun k hk => ?_)
    rw [hok account ha k hk]
    exact hne
  rw [hwritten]
  cases e with
  | savePasswordInKeychain password faults =>
    simp only [Enrolment.written, Option.mem_def, savePasswordInKeychain_key h, EmailLeast]
    constructor
    · intro hok account ha p hp hne email hleast hacc
      exact hok account ha email ⟨hleast, p, hp, hne, hacc⟩
    · rintro hok account ha key ⟨hleast, p, hp, hne, hacc⟩
      exact hok account ha p hp hne key hleast hacc
  | _ => simp [Enrolment.written, EmailLeast]

/-- **Enrolments are right exactly when each is made while the account's own e-mail is the
least stored one.** From the first launch, over any keychain. -/
theorem enrolled_iff (device : Device) (keychain : Keychain) {es : List EnrolmentEvent} {s : Enrolment}
    (h : run (Enrolment.step device) (.launch keychain) es = some s) :
    Along (Enrolment.step device) (EnrolledOK device) (.launch keychain) es ↔
      Along (Enrolment.step device) (EmailLeast device) (.launch keychain) es :=
  along_iff_of_inv step_emailed (fun s e _ hs _ => enrolledOK_iff s e hs) es
    (by simp [Enrolment.Emailed, Enrolment.launch, UserStore.rows]) h

/-- The rounds of a `getUserInformation` call `i` for an e-mail account that finds its document. -/
def documentRounds (i : ℕ) (email : String) : List EnrolmentEvent :=
  [.getUserInformation,
    .round i ⟨none, some ⟨some [("email", .string email)]⟩, none, none, false⟩,
    .round i ⟨none, none, none, none, false⟩]

/-- `b@x` signs in, the settings screen reads its document, and Face ID is enrolled. -/
def enrolB (i : ℕ) : List EnrolmentEvent :=
  .signIn ⟨"B", "b@x", ["password"]⟩ :: documentRounds i "b@x"

def enrol : EnrolmentEvent := .savePasswordInKeychain (some "secret") ⟨none, none⟩

/-- A device with its own keychain group. -/
def someDevice : Device := ⟨false, "group", some "app", .first⟩

theorem enrolled_single :
    Along (Enrolment.step someDevice) (EnrolledOK someDevice) (.launch []) (enrolB 0 ++ [enrol]) := by
  obtain ⟨s, h⟩ : ∃ s, run (Enrolment.step someDevice) (.launch []) (enrolB 0 ++ [enrol]) = some s :=
    ⟨_, rfl⟩
  refine (enrolled_iff someDevice [] h).2 ((along_snoc rfl).2 ⟨?_, ?_⟩)
  · simp [Along, EmailLeast, enrolB, documentRounds]
  · rintro account ⟨⟩ p - - email ⟨⟨row, hrow, hemail⟩, -⟩ -
    obtain rfl := List.mem_singleton.1 hrow
    exact (Option.some.inj hemail).symm

/-- **The second account's password goes to the first.** `a@x` signs in and out, then `b@x`
signs in and enrols: its password is stored under `a@x`, whose row is still there. -/
theorem second_account_enrolled :
    ¬ Along (Enrolment.step someDevice) (EnrolledOK someDevice) (.launch [])
      (.signIn ⟨"A", "a@x", ["password"]⟩ :: documentRounds 0 "a@x" ++ .signOut :: enrolB 1 ++
        [enrol]) := by
  intro h
  have hlast := ((along_snoc rfl).1 h).2
  have hkey : "a@x" = "b@x" := (hlast _ rfl).1 "a@x" rfl
  exact absurd hkey (by decide)

end ArtExhibition
