import ArtExhibition.Machine.Run
import ArtExhibition.Proof.Enrolment
import ArtExhibition.Proof.KeychainMap
import ArtExhibition.Spec.Relaunch

/-!
# The passwords that Face ID enrolments stored

An enrolment stores a password under the least stored e-mail. `stored` is the key and the password of
each enrolment that the keychain accepted, and a list of these is the history of a run of sign-ins,
sign-outs, `getUserInformation` calls, enrolments, backgrounds and relaunches.

`launchStep_agrees`: in every state, the keychain has the last password of the history under each key
(`lastUnder`), or the one from before it, and every row has an e-mail.
-/

namespace ArtExhibition

open Machine

/-! ## The history of enrolments -/

/-- The key and the password that an event stores in the keychain. -/
def Enrolment.stored (device : Device) (s : Enrolment) : LaunchEvent → List (String × String)
  | .event (.savePasswordInKeychain password faults) =>
    match (device.savePasswordInKeychain s.store password faults s.keychain).2, password with
    | some key, some password => [(key, password)]
    | _, _ => []
  | _ => []

/-- The last password under a key, or the one from before the history. -/
def lastUnder (before : String → Option String) (history : List (String × String)) (key : String) :
    Option String :=
  history.foldl (fun password entry => if entry.1 = key then some entry.2 else password) (before key)

@[simp] theorem lastUnder_nil (before : String → Option String) (key : String) :
    lastUnder before [] key = before key := rfl

theorem lastUnder_append (before : String → Option String) (history later : List (String × String))
    (key : String) :
    lastUnder before (history ++ later) key = lastUnder (lastUnder before history) later key := by
  simp only [lastUnder, List.foldl_append]

/-- Entries under other keys do not count. -/
theorem lastUnder_filter {before : String → Option String} {history : List (String × String)}
    {key : String} {p : String × String → Prop} [DecidablePred p] (h : ∀ entry, entry.1 = key → p entry) :
    lastUnder before (history.filter p) key = lastUnder before history key := by
  unfold lastUnder
  generalize before key = password
  induction history generalizing password with
  | nil => rfl
  | cons entry history ih =>
    by_cases hp : p entry
    · rw [List.filter_cons_of_pos (by simpa using hp), List.foldl_cons, List.foldl_cons, ih]
    · have hkey : entry.1 ≠ key := fun heq => hp (h entry heq)
      rw [List.filter_cons_of_neg (by simpa using hp), List.foldl_cons, if_neg hkey, ih]

/-! ## One enrolment -/

variable {device : Device} {s s' : Enrolment} {e : LaunchEvent}

/-- **What an enrolment does**: it stores nothing and leaves the keychain alone, or it stores the
password under the least stored e-mail. -/
theorem savePasswordInKeychain_cases (password : Option String) (faults : AddFaults) :
    (s.stored device (.event (.savePasswordInKeychain password faults)) = [] ∧
      (device.savePasswordInKeychain s.store password faults s.keychain).1 = s.keychain) ∨
    ∃ key p, s.stored device (.event (.savePasswordInKeychain password faults)) = [(key, p)] ∧
      ∃ faults' ok, device.firebaseKeychain.addPasswordToKeychains device key p faults' s.keychain =
        (.ok ok, (device.savePasswordInKeychain s.store password faults s.keychain).1) := by
  unfold Enrolment.stored Device.savePasswordInKeychain
  cases hemail : s.store.fetch.head?.bind User.email with
  | none => exact .inl ⟨rfl, rfl⟩
  | some email =>
    cases password with
    | none => exact .inl ⟨rfl, rfl⟩
    | some p =>
      dsimp only
      by_cases hempty : p.isEmpty = true
      · rw [if_pos hempty]
        exact .inl ⟨rfl, rfl⟩
      · rw [if_neg hempty]
        cases hadd : device.firebaseKeychain.addPasswordToKeychains device email p faults s.keychain with
        | mk result keychain =>
          cases result with
          | error err => exact .inl ⟨rfl, addPasswordToKeychains_throws hadd⟩
          | ok ok => exact .inr ⟨email, p, rfl, faults, ok, hadd⟩

/-! ## One event -/

theorem saveContext_eq_some {store store' : UserStore} {saveThrows : Bool}
    (h : store.saveContext saveThrows = some store') : store' = store ∨ store' = ⟨store.rows, []⟩ := by
  unfold UserStore.saveContext at h
  split at h
  · exact .inl (Option.some.inj h).symm
  · split at h
    · cases h
    · exact .inr (Option.some.inj h).symm

/-- Entering the background saves the context, or ends the program. -/
theorem background_cases {saveThrows : Bool}
    (hs : s.launchStep device (.sceneDidEnterBackground saveThrows) = some s') :
    s'.keychain = s.keychain ∧ (s'.store = s.store ∨ s'.store = ⟨s.store.rows, []⟩) := by
  simp only [Enrolment.launchStep] at hs
  split at hs
  · cases hs
  · split at hs
    · rename_i store hsaved
      obtain rfl := Option.some.inj hs
      exact ⟨rfl, saveContext_eq_some hsaved⟩
    · obtain rfl := Option.some.inj hs
      exact ⟨rfl, .inl rfl⟩

/-- **What one event does to the keychain**, and what it adds to the history. -/
theorem launchStep_keychain (hs : s.launchStep device e = some s') :
    s.stored device e = [] ∧ s'.keychain = s.keychain ∨
      ∃ key p, s.stored device e = [(key, p)] ∧ ∃ faults ok,
        device.firebaseKeychain.addPasswordToKeychains device key p faults s.keychain =
          (.ok ok, s'.keychain) := by
  cases e with
  | event e =>
    cases e with
    | savePasswordInKeychain password faults =>
      have hcases := @savePasswordInKeychain_cases device s password faults
      simp only [Enrolment.launchStep, Enrolment.anyStep] at hs
      split at hs
      · cases hs
      · obtain rfl := Option.some.inj hs
        exact hcases
    | signIn account => exact .inl ⟨rfl, (@enrolment_step_cases device s s' (.signIn account) hs).2⟩
    | signOut => exact .inl ⟨rfl, (@enrolment_step_cases device s s' .signOut hs).2⟩
    | getUserInformation =>
      exact .inl ⟨rfl, (@enrolment_step_cases device s s' .getUserInformation hs).2⟩
    | round i input => exact .inl ⟨rfl, (@enrolment_step_cases device s s' (.round i input) hs).1⟩
  | sceneDidEnterBackground saveThrows => exact .inl ⟨rfl, (background_cases hs).1⟩
  | relaunch =>
    obtain rfl := Option.some.inj hs
    exact .inl ⟨rfl, rfl⟩

/-- **What one event does to the rows**: it adds one, it saves the context, or it launches the app
again. -/
theorem launchStep_rows (hs : s.launchStep device e = some s') :
    (s'.store = s.store ∨ s'.store = ⟨s.store.rows, []⟩) ∨
    (∃ user profileImage saveThrows,
      s'.store = (s.store.save (UserModel.row user profileImage) saveThrows).2) ∨
    (e = .relaunch ∧ s'.store = s.store.relaunch) := by
  cases e with
  | event e =>
    cases e with
    | savePasswordInKeychain password faults =>
      simp only [Enrolment.launchStep, Enrolment.anyStep] at hs
      split at hs
      · cases hs
      · obtain rfl := Option.some.inj hs
        exact .inl (.inl rfl)
    | signIn account => exact .inl (.inl (@enrolment_step_cases device s s' (.signIn account) hs).1)
    | signOut => exact .inl (.inl (@enrolment_step_cases device s s' .signOut hs).1)
    | getUserInformation =>
      exact .inl (.inl (@enrolment_step_cases device s s' .getUserInformation hs).1)
    | round i input =>
      rcases (@enrolment_step_cases device s s' (.round i input) hs).2 with hsame | hsaved
      · exact .inl (.inl hsame)
      · exact .inr (.inl hsaved)
  | sceneDidEnterBackground saveThrows => exact .inl (background_cases hs).2
  | relaunch =>
    obtain rfl := Option.some.inj hs
    exact .inr (.inr ⟨rfl, rfl⟩)

/-- A stored e-mail stays stored, unless a relaunch finds its row unsaved. -/
theorem email_kept (hs : s.launchStep device e = some s') {email : String} (hemail : email ∈ s.store.Email)
    (hkept : e = .relaunch → email ∈ s.store.relaunch.Email) : email ∈ s'.store.Email := by
  obtain ⟨row, hrow, hrowEmail⟩ := hemail
  rcases launchStep_rows hs with (hstore | hstore) | ⟨user, profileImage, saveThrows, hstore⟩ | ⟨he, hstore⟩
  · exact hstore ▸ ⟨row, hrow, hrowEmail⟩
  · exact hstore ▸ ⟨row, List.mem_append_left _ hrow, hrowEmail⟩
  · rw [hstore]
    refine ⟨row, ?_, hrowEmail⟩
    rw [rows_save]
    exact List.mem_append_left _ hrow
  · exact hstore ▸ hkept he

theorem launchStep_emailed (h : s.Emailed) (hs : s.launchStep device e = some s') : s'.Emailed := by
  unfold Enrolment.Emailed
  rcases launchStep_rows hs with (hstore | hstore) | ⟨user, profileImage, saveThrows, hstore⟩ | ⟨-, hstore⟩
  · exact hstore ▸ h
  · rw [hstore]
    exact fun row hrow => h row (by simpa [UserStore.rows] using hrow)
  · rw [hstore, rows_save, forall_mem_snoc_iff]
    exact ⟨h, rfl⟩
  · rw [hstore]
    refine fun row hrow => h row (List.mem_append_left _ ?_)
    simpa [UserStore.relaunch, UserStore.rows] using hrow

/-! ## The keychain and the history -/

/-- What relates the app to its history: every row has an e-mail, and the keychain has the last
passwords. -/
structure Enrolment.Agrees (device : Device) (before : String → Option String) (s : Enrolment)
    (history : List (String × String)) : Prop where
  emailed : s.Emailed
  passwords : device.firebaseKeychain.Represents device s.keychain (lastUnder before history)

/-- **One event** keeps the agreement. -/
theorem launchStep_agrees {before : String → Option String} {history : List (String × String)}
    (h : s.Agrees device before history) (hs : s.launchStep device e = some s') :
    s'.Agrees device before (history ++ s.stored device e) := by
  refine ⟨launchStep_emailed h.emailed hs, ?_⟩
  rcases launchStep_keychain hs with ⟨hnone, hkeychain⟩ | ⟨key, p, hstored, faults, ok, hadd⟩
  · rw [hnone, List.append_nil, hkeychain]
    exact h.passwords
  · -- the add is one call on the map that the keychain represents
    have hnext := perform_represents h.passwords (.addPasswordToKeychains key p faults)
    simp only [KeychainManager.perform, hadd] at hnext
    have hlast : lastUnder before (history ++ [(key, p)]) = nextPasswords (lastUnder before history)
        (.addPasswordToKeychains key p faults, .added (.ok ok)) :=
      funext fun k => lastUnder_append ..
    rw [hstored, hlast]
    exact hnext

theorem launch_agrees {before : String → Option String} {keychain : Keychain}
    (h : device.firebaseKeychain.Represents device keychain before) :
    (Enrolment.launch keychain).Agrees device before [] :=
  ⟨by simp [Enrolment.Emailed, Enrolment.launch, UserStore.rows], h⟩

/-! ## A first enrolment -/

theorem isLeast_of_rows {store : UserStore} (emails : List String) {email : String}
    (h : store.rows.map User.email = emails.map some) (hmem : email ∈ emails)
    (hle : ∀ other ∈ emails, email ≤ other) : IsLeast store.Email email := by
  have hiff : ∀ other, other ∈ store.Email ↔ other ∈ emails := by
    intro other
    rw [← List.mem_map_of_injective (Option.some_injective String), ← h, List.mem_map]
    rfl
  exact ⟨(hiff email).2 hmem, fun other hother => hle other ((hiff other).1 hother)⟩

/-- An empty keychain is that of no passwords. -/
theorem represents_nil (device : Device) (manager : KeychainManager) :
    manager.Represents device [] fun _ => none := fun _ => rfl

/-- `b@x` signs in, the settings screen reads its document, and Face ID is enrolled. -/
def enrolledB : List LaunchEvent := (enrolB 0 ++ [enrol]).map .event

end ArtExhibition
