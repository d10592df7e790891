import ArtExhibition.Spec.Keychain

/-!
# One key of the keychain at a time

Every query of `KeychainManager` names an account, so what is found under a key depends on
the items of that account alone (`findPasswordInKeychains_congr`), and an add leaves the
items of other accounts as they were (`addPasswordToKeychains_other`), and all items if it
throws (`addPasswordToKeychains_throws`).
-/

namespace ArtExhibition

/-- The items of one account. -/
def Keychain.ofAccount (keychain : Keychain) (key : String) : Keychain :=
  keychain.filter fun item => item.account = key

theorem account_of_matches {query : SecQuery} {key : String} (hq : query.account = some key)
    {item : KeychainItem} (h : query.matches item) : item.account = key := by
  simp only [SecQuery.matches, hq, Option.all_some, Bool.and_eq_true, decide_eq_true_eq] at h
  exact h.2.symm

/-- What a query with an account matches is in the items of that account. -/
theorem filter_ofAccount {query : SecQuery} {key : String} (hq : query.account = some key)
    (keychain : Keychain) :
    (keychain.ofAccount key).filter query.matches = keychain.filter query.matches := by
  rw [Keychain.ofAccount, List.filter_filter]
  refine List.filter_congr fun item _ => ?_
  by_cases hm : query.matches item
  · simp [hm, account_of_matches hq hm]
  · simp [hm]

/-- **What a key finds depends on its own items.** -/
theorem findPasswordInKeychains_congr (device : Device) (manager : KeychainManager) (key : String)
    (fault : Option Int) {keychain keychain' : Keychain}
    (h : keychain'.ofAccount key = keychain.ofAccount key) :
    manager.findPasswordInKeychains device key fault keychain' =
      manager.findPasswordInKeychains device key fault keychain := by
  -- simulator or not, the query names the account
  have hq : (manager.basicQuery device key).account = some key := rfl
  unfold KeychainManager.findPasswordInKeychains Device.secItemCopyMatching
  rw [← filter_ofAccount hq keychain', ← filter_ofAccount hq keychain, h]

/-- Updating the items of `key` keeps those of another account. -/
theorem ofAccount_update {query : SecQuery} {key other : String} (hq : query.account = some key)
    (hne : other ≠ key) (valueData : ByteArray) (keychain : Keychain) :
    Keychain.ofAccount (keychain.map fun item =>
        if query.matches item then { item with valueData := valueData } else item) other =
      keychain.ofAccount other := by
  unfold Keychain.ofAccount
  induction keychain with
  | nil => rfl
  | cons item keychain ih =>
    by_cases hm : query.matches item
    · have hk : item.account ≠ other := fun h => hne (h ▸ account_of_matches hq hm)
      simpa [hm, hk] using ih
    · simp [hm, List.filter_cons, ih]

theorem secItemUpdate_other (fault : Option Int) {query : SecQuery} {key other : String}
    (hq : query.account = some key) (hne : other ≠ key) (valueData : ByteArray) (keychain : Keychain) :
    (secItemUpdate fault query valueData keychain).2.ofAccount other = keychain.ofAccount other := by
  unfold secItemUpdate
  split
  · rfl
  split
  · exact ofAccount_update hq hne valueData keychain
  · rfl

theorem secItemAdd_other (device : Device) (fault : Option Int) (query : SecQuery) {key other : String}
    (hne : other ≠ key) (valueData : ByteArray) (keychain : Keychain) :
    (device.secItemAdd fault query key valueData keychain).2.ofAccount other =
      keychain.ofAccount other := by
  unfold Device.secItemAdd
  split
  · rfl
  dsimp only
  split
  · rfl
  · simp [Keychain.ofAccount, List.filter_append, hne.symm]

/-- **An add affects no other key.** -/
theorem addPasswordToKeychains_other (device : Device) (manager : KeychainManager) {key other : String}
    (hne : other ≠ key) (password : String) (faults : AddFaults) (keychain : Keychain) :
    (manager.addPasswordToKeychains device key password faults keychain).2.ofAccount other =
      keychain.ofAccount other := by
  have hq : (manager.basicQuery device key).account = some key := rfl
  have hu := secItemUpdate_other faults.updateOrAdd hq hne password.toUTF8 keychain
  have ha := secItemAdd_other device faults.updateOrAdd (manager.basicQuery device key) hne
    password.toUTF8 keychain
  unfold KeychainManager.addPasswordToKeychains
  dsimp only
  split
  · split
    · rename_i h; rwa [h] at hu
    · rename_i h; rwa [h] at hu
  · split
    · rename_i h; rwa [h] at ha
    · rename_i h; rwa [h] at ha
  · rfl

/-- **A failed add changes nothing.** -/
theorem addPasswordToKeychains_throws {device : Device} {manager : KeychainManager}
    {key password : String} {faults : AddFaults} {keychain keychain' : Keychain} {err : KeychainError}
    (h : manager.addPasswordToKeychains device key password faults keychain = (.error err, keychain')) :
    keychain' = keychain := by
  have hu : ∀ query status keychain'',
      secItemUpdate faults.updateOrAdd query password.toUTF8 keychain = (status, keychain'') →
      status ≠ .errSecSuccess → keychain'' = keychain := by
    intro query status keychain'' hs hne
    unfold secItemUpdate at hs
    grind
  have ha : ∀ query status keychain'',
      device.secItemAdd faults.updateOrAdd query key password.toUTF8 keychain = (status, keychain'') →
      status ≠ .errSecSuccess → keychain'' = keychain := by
    intro query status keychain'' hs hne
    unfold Device.secItemAdd at hs
    grind
  unfold KeychainManager.addPasswordToKeychains at h
  grind

end ArtExhibition
