import ArtExhibition.Machine.Calls
import ArtExhibition.Proof.Keychain

/-!
# A keychain manager is a finite map

The calls on one `KeychainManager`, from a keychain without items of its query, are those on
a map from keys to passwords. `Represents` relates the two: under each key the keychain has
the item of the map's password and no other. Each call that succeeds keeps it for the map
that the call leaves (`perform_represents`), each one that throws leaves the keychain alone
(`perform_throws`), so the map is the last passwords that the history added
(`represents_after`).
-/

namespace ArtExhibition

open Machine

/-- The password of the last successful add of `key` since the last successful
`removeAllValues`. -/
def lastPassword (key : String) (history : List (KeychainCall × KeychainResult)) : Option String :=
  history.foldl (fun password entry =>
    match entry with
    | (.addPasswordToKeychains added newPassword _, .added (.ok _)) =>
      if added = key then some newPassword else password
    | (.removeAllValues _, .removed (.ok _)) => none
    | _ => password) none

/-- The passwords found under a key. -/
def KeychainManager.stored (device : Device) (manager : KeychainManager) (keychain : Keychain)
    (key : String) : List ByteArray :=
  (keychain.filter (manager.basicQuery device key).matches).map KeychainItem.valueData

/-- Under each key the keychain has the one item of the map's password, or none. -/
def KeychainManager.Represents (device : Device) (manager : KeychainManager) (keychain : Keychain)
    (passwords : String → Option String) : Prop :=
  ∀ key, manager.stored device keychain key = ((passwords key).map String.toUTF8).toList

section Queries

variable {device : Device} {manager : KeychainManager} {keychain keychain' : Keychain}

theorem matches_query_of_basicQuery {key : String} {item : KeychainItem}
    (h : (manager.basicQuery device key).matches item) : (manager.keychainQuery.query device).matches item := by
  simp only [SecQuery.matches, KeychainManager.basicQuery, Bool.and_eq_true] at h ⊢
  exact ⟨h.1, rfl⟩

/-- What is stored under a key is in that key's items. -/
theorem stored_congr {key : String} (h : keychain'.ofAccount key = keychain.ofAccount key) :
    manager.stored device keychain' key = manager.stored device keychain key := by
  have hq : (manager.basicQuery device key).account = some key := rfl
  unfold KeychainManager.stored
  rw [← filter_ofAccount hq keychain', ← filter_ofAccount hq keychain, h]

theorem matches_set_valueData (query : SecQuery) (item : KeychainItem) (valueData : ByteArray) :
    query.matches { item with valueData := valueData } = query.matches item := rfl

/-- The item that `addPasswordToKeychains` inserts. -/
def KeychainManager.newItem (device : Device) (manager : KeychainManager) (key : String)
    (valueData : ByteArray) : KeychainItem where
  accessGroup := (manager.basicQuery device key).accessGroup.getD device.defaultAccessGroup
  service := (manager.basicQuery device key).service
  account := key
  label := (manager.basicQuery device key).label
  valueData := valueData

/-- The inserted item is found by the query it was inserted with. -/
theorem matches_newItem (key : String) (valueData : ByteArray) :
    (manager.basicQuery device key).matches (manager.newItem device key valueData) := by
  unfold KeychainManager.newItem SecQuery.matches KeychainManager.basicQuery GenericPasswordQuery.query
  cases device.simulator <;> cases manager.keychainQuery.accessGroup <;> simp

end Queries

/-! ## The Security calls -/

section SecItem

variable {device : Device} {query : SecQuery} {fault : Option Int} {keychain keychain' : Keychain}

theorem pick_eq_none_iff (items : List KeychainItem) :
    device.matchLimitOne.pick items = none ↔ items = [] := by
  constructor
  · intro hnone
    by_contra hne
    have hsome := device.matchLimitOne.isSome items hne
    rw [hnone] at hsome
    cases hsome
  · rintro rfl
    rw [Option.eq_none_iff_forall_not_mem]
    intro item hitem
    cases device.matchLimitOne.mem [] item hitem

/-- There is nothing to choose among one item. -/
theorem pick_singleton (item : KeychainItem) : device.matchLimitOne.pick [item] = some item := by
  obtain ⟨other, hpick⟩ :=
    Option.isSome_iff_exists.1 (device.matchLimitOne.isSome [item] (List.cons_ne_nil _ _))
  rw [hpick, List.mem_singleton.1 (device.matchLimitOne.mem [item] other hpick)]

theorem copyMatching_success (h : (device.secItemCopyMatching fault query keychain).1 = .errSecSuccess) :
    keychain.any query.matches := by
  unfold Device.secItemCopyMatching at h
  split at h
  · cases h
  · rename_i item hpick
    obtain ⟨hitem, hmatches⟩ := List.mem_filter.1 (device.matchLimitOne.mem _ item hpick)
    exact List.any_eq_true.2 ⟨item, hitem, hmatches⟩
  · cases h

theorem copyMatching_notFound
    (h : (device.secItemCopyMatching fault query keychain).1 = .errSecItemNotFound) :
    ∀ item ∈ keychain, query.matches item = false := by
  unfold Device.secItemCopyMatching at h
  split at h
  · cases h
  · cases h
  · rename_i hpick
    simpa [List.filter_eq_nil_iff] using (pick_eq_none_iff _).1 hpick

theorem secItemUpdate_success {valueData : ByteArray}
    (h : secItemUpdate fault query valueData keychain = (.errSecSuccess, keychain')) :
    keychain' = keychain.map fun item =>
      if query.matches item then { item with valueData := valueData } else item := by
  unfold secItemUpdate at h
  split at h
  · cases h
  split at h
  · exact (Prod.mk.inj h).2.symm
  · cases h

theorem secItemAdd_success {key : String} {valueData : ByteArray}
    (h : device.secItemAdd fault query key valueData keychain = (.errSecSuccess, keychain')) :
    keychain' = keychain ++
      [{ accessGroup := query.accessGroup.getD device.defaultAccessGroup, service := query.service
         account := key, label := query.label, valueData := valueData }] := by
  unfold Device.secItemAdd at h
  split at h
  · cases h
  dsimp only at h
  split at h
  · cases h
  · exact (Prod.mk.inj h).2.symm

/-- A delete leaves the items that do not match, or fails and leaves them all. -/
theorem secItemDelete_cases (fault : Option Int) (query : SecQuery) (keychain : Keychain) :
    (∃ code, secItemDelete fault query keychain = (.other code, keychain)) ∨
    ∃ status, (status = .errSecSuccess ∨ status = .errSecItemNotFound) ∧
      secItemDelete fault query keychain = (status, keychain.filter fun item => !query.matches item) := by
  unfold secItemDelete
  rcases fault with - | code
  · right
    by_cases hany : keychain.any query.matches
    · exact ⟨.errSecSuccess, .inl rfl, by simp [hany]⟩
    · have hkeep : (keychain.filter fun item => !query.matches item) = keychain := by
        simpa [List.filter_eq_self] using hany
      exact ⟨.errSecItemNotFound, .inr rfl, by simp [hany, hkeep]⟩
  · exact .inl ⟨code, rfl⟩

end SecItem

/-! ## One call -/

section Calls

variable {device : Device} {manager : KeychainManager} {keychain keychain' : Keychain}

/-- **What a successful add does**: it updates the items it finds, or inserts the only one. -/
theorem addPasswordToKeychains_ok {key password : String} {faults : AddFaults} {result : Bool}
    (h : manager.addPasswordToKeychains device key password faults keychain = (.ok result, keychain')) :
    (keychain.any (manager.basicQuery device key).matches ∧
      keychain' = keychain.map fun item =>
        if (manager.basicQuery device key).matches item then { item with valueData := password.toUTF8 }
        else item) ∨
    ((∀ item ∈ keychain, (manager.basicQuery device key).matches item = false) ∧
      keychain' = keychain ++ [manager.newItem device key password.toUTF8]) := by
  unfold KeychainManager.addPasswordToKeychains at h
  dsimp only at h
  split at h
  · rename_i hfound
    split at h
    · rename_i hupdate
      cases h
      exact .inl ⟨copyMatching_success hfound, secItemUpdate_success hupdate⟩
    · cases h
  · rename_i hfound
    split at h
    · rename_i hadd
      cases h
      exact .inr ⟨copyMatching_notFound hfound, secItemAdd_success hadd⟩
    · cases h
  · cases h

/-- What `removeAllValues` does: it keeps the items outside the manager's query, or throws. -/
theorem removeAllValues_cases (device : Device) (manager : KeychainManager) (fault : Option Int)
    (keychain : Keychain) :
    (∃ err, manager.removeAllValues device fault keychain = (.error err, keychain)) ∨
    manager.removeAllValues device fault keychain =
      (.ok (), keychain.filter fun item => !(manager.keychainQuery.query device).matches item) := by
  unfold KeychainManager.removeAllValues
  rcases secItemDelete_cases fault (manager.keychainQuery.query device) keychain with
    ⟨code, h⟩ | ⟨status, rfl | rfl, h⟩
  · rw [h]
    exact .inl ⟨_, rfl⟩
  · rw [h]
    exact .inr rfl
  · rw [h]
    exact .inr rfl

/-- **A call that throws changes nothing.** -/
theorem perform_throws {keychainCall : KeychainCall}
    (h : (manager.perform device keychainCall keychain).1.threw) :
    (manager.perform device keychainCall keychain).2 = keychain := by
  cases keychainCall with
  | addPasswordToKeychains key password faults =>
    simp only [KeychainManager.perform] at h ⊢
    generalize hadd : manager.addPasswordToKeychains device key password faults keychain = result at h ⊢
    rcases result with ⟨err | result, keychain'⟩
    · exact addPasswordToKeychains_throws hadd
    · cases h
  | findPasswordInKeychains key fault => rfl
  | removeAllValues fault =>
    simp only [KeychainManager.perform] at h ⊢
    rcases removeAllValues_cases device manager fault keychain with ⟨err, hr⟩ | hr
    · rw [hr]
    · rw [hr] at h
      cases h

/-! ## The map -/

/-- The passwords after one call with its result. -/
def nextPasswords (passwords : String → Option String) (entry : KeychainCall × KeychainResult)
    (key : String) : Option String :=
  match entry with
  | (.addPasswordToKeychains added newPassword _, .added (.ok _)) =>
    if added = key then some newPassword else passwords key
  | (.removeAllValues _, .removed (.ok _)) => none
  | _ => passwords key

theorem stored_update (key : String) (valueData : ByteArray) :
    manager.stored device (keychain.map fun item =>
        if (manager.basicQuery device key).matches item then { item with valueData := valueData }
        else item) key =
      (manager.stored device keychain key).map fun _ => valueData := by
  unfold KeychainManager.stored
  induction keychain with
  | nil => rfl
  | cons item keychain ih =>
    by_cases hm : (manager.basicQuery device key).matches item
    · simpa [hm, matches_set_valueData] using ih
    · simpa [hm] using ih

/-- A successful add leaves its password as the only one under its key. -/
theorem stored_add {passwords : String → Option String} {key password : String} {faults : AddFaults}
    {result : Bool} (h : manager.Represents device keychain passwords)
    (hadd : manager.addPasswordToKeychains device key password faults keychain = (.ok result, keychain')) :
    manager.stored device keychain' key = [password.toUTF8] := by
  rcases addPasswordToKeychains_ok hadd with ⟨hany, rfl⟩ | ⟨hnone, rfl⟩
  · rw [stored_update, h key]
    obtain ⟨item, hitem, hm⟩ := List.any_eq_true.1 hany
    -- the map has a password there, as the keychain has an item
    have hmem : item.valueData ∈ manager.stored device keychain key :=
      List.mem_map_of_mem (List.mem_filter.2 ⟨hitem, hm⟩)
    rw [h key] at hmem
    cases hp : passwords key with
    | none => simp [hp] at hmem
    | some old => simp
  · have hempty : keychain.filter (manager.basicQuery device key).matches = [] :=
      List.filter_eq_nil_iff.2 fun item hitem => by simp [hnone item hitem]
    rw [KeychainManager.stored, List.filter_append, hempty, List.nil_append,
      List.filter_cons_of_pos (matches_newItem key password.toUTF8)]
    rfl

theorem stored_removed (key : String) :
    manager.stored device
      (keychain.filter fun item => !(manager.keychainQuery.query device).matches item) key = [] := by
  unfold KeychainManager.stored
  rw [List.filter_filter, List.map_eq_nil_iff, List.filter_eq_nil_iff]
  intro item _ h
  rw [Bool.and_eq_true] at h
  simp [matches_query_of_basicQuery h.1] at h

/-- **One call on the keychain is one call on the map.** -/
theorem perform_represents {passwords : String → Option String}
    (h : manager.Represents device keychain passwords) (keychainCall : KeychainCall) :
    manager.Represents device (manager.perform device keychainCall keychain).2
      (nextPasswords passwords (keychainCall, (manager.perform device keychainCall keychain).1)) := by
  cases keychainCall with
  | findPasswordInKeychains key fault => exact h
  | removeAllValues fault =>
    simp only [KeychainManager.perform]
    rcases removeAllValues_cases device manager fault keychain with ⟨err, hr⟩ | hr
    · rw [hr]
      exact h
    · rw [hr]
      intro key
      simp [nextPasswords, stored_removed]
  | addPasswordToKeychains key password faults =>
    simp only [KeychainManager.perform]
    generalize hadd : manager.addPasswordToKeychains device key password faults keychain = result
    rcases result with ⟨err | result, keychain'⟩
    · rw [addPasswordToKeychains_throws hadd]
      exact h
    · intro other
      by_cases hk : key = other
      · subst hk
        simp [nextPasswords, stored_add h hadd]
      · have hother := addPasswordToKeychains_other device manager (Ne.symm hk) password faults keychain
        rw [hadd] at hother
        simp [nextPasswords, hk, stored_congr hother, h other]

theorem fromUTF8?_toUTF8 (password : String) : String.fromUTF8? password.toUTF8 = some password :=
  dif_pos password.isValidUTF8

/-- The item that a query gets carries the map's password, as it is the only one. -/
theorem pick_of_represents {passwords : String → Option String}
    (h : manager.Represents device keychain passwords) (key : String) :
    (device.matchLimitOne.pick (keychain.filter (manager.basicQuery device key).matches)).map
        KeychainItem.valueData = (passwords key).map String.toUTF8 := by
  have hstored := h key
  unfold KeychainManager.stored at hstored
  cases hp : passwords key with
  | none =>
    rw [hp, Option.map_none, Option.toList_none, List.map_eq_nil_iff] at hstored
    rw [(pick_eq_none_iff _).2 hstored]
    rfl
  | some password =>
    rw [hp, Option.map_some, Option.toList_some, List.map_eq_singleton_iff] at hstored
    obtain ⟨item, hitem, hdata⟩ := hstored
    rw [hitem, pick_singleton, Option.map_some, hdata]
    rfl

/-- **A find gives the map's password**, unless the Security call fails. -/
theorem find_of_represents {passwords : String → Option String}
    (h : manager.Represents device keychain passwords) (key : String) :
    manager.findPasswordInKeychains device key none keychain = .ok (passwords key) := by
  have hfind := pick_of_represents h key
  unfold KeychainManager.findPasswordInKeychains Device.secItemCopyMatching
  cases hp : passwords key with
  | none =>
    rw [hp, Option.map_none, Option.map_eq_none_iff] at hfind
    rw [hfind]
  | some password =>
    rw [hp, Option.map_some, Option.map_eq_some_iff] at hfind
    obtain ⟨item, hitem, hdata⟩ := hfind
    rw [hitem]
    dsimp only
    rw [hdata, fromUTF8?_toUTF8]

theorem find_fault (device : Device) (manager : KeychainManager) (key : String) (code : Int)
    (keychain : Keychain) :
    manager.findPasswordInKeychains device key (some code) keychain =
      .error (.unhandledError (.other code)) := rfl

end Calls

/-! ## A history of calls -/

section History

variable {device : Device} {manager : KeychainManager} {keychain : Keychain}

theorem lastPassword_snoc (history : List (KeychainCall × KeychainResult))
    (entry : KeychainCall × KeychainResult) :
    (fun key => lastPassword key (history ++ [entry])) =
      nextPasswords (fun key => lastPassword key history) entry := by
  funext key
  simp [lastPassword, nextPasswords, List.foldl_append]

theorem represents_empty
    (hfresh : ∀ item ∈ keychain, (manager.keychainQuery.query device).matches item = false) :
    manager.Represents device keychain fun _ => none := by
  intro key
  have hempty : keychain.filter (manager.basicQuery device key).matches = [] := by
    refine List.filter_eq_nil_iff.2 fun item hitem h => ?_
    have hquery := matches_query_of_basicQuery h
    rw [hfresh item hitem] at hquery
    cases hquery
  simp [KeychainManager.stored, hempty]

/-- **The keychain after any calls** holds the last passwords of their history. -/
theorem represents_after
    (hfresh : ∀ item ∈ keychain, (manager.keychainQuery.query device).matches item = false)
    (calls : List KeychainCall) :
    manager.Represents device (after (manager.perform device) keychain calls)
      fun key => lastPassword key (trace (manager.perform device) keychain calls) := by
  refine trace_inv (I := fun history keychain =>
    manager.Represents device keychain fun key => lastPassword key history) ?_ calls (h := [])
    (represents_empty hfresh)
  intro history keychain keychainCall h
  rw [lastPassword_snoc]
  exact perform_represents h keychainCall

/-- The manager is a map after the calls: what it may find, what a call may change. -/
structure KeychainManager.IsMapAfter (device : Device) (manager : KeychainManager) (keychain : Keychain)
    (calls : List KeychainCall) : Prop where
  /-- A find that succeeds gives the last password of its key in the history. -/
  find : ∀ key fault password,
    (manager.perform device (.findPasswordInKeychains key fault)
      (after (manager.perform device) keychain calls)).1 = .found (.ok password) →
    password = lastPassword key (trace (manager.perform device) keychain calls)
  /-- A find succeeds unless its Security call fails. -/
  succeeds : ∀ key, ∃ password, (manager.perform device (.findPasswordInKeychains key none)
    (after (manager.perform device) keychain calls)).1 = .found (.ok password)
  /-- A call that throws changes nothing. -/
  throws : ∀ keychainCall,
    (manager.perform device keychainCall (after (manager.perform device) keychain calls)).1.threw →
    (manager.perform device keychainCall (after (manager.perform device) keychain calls)).2 =
      after (manager.perform device) keychain calls
  /-- An add leaves the items of the other keys. -/
  add : ∀ key password faults other, other ≠ key →
    (manager.perform device (.addPasswordToKeychains key password faults)
      (after (manager.perform device) keychain calls)).2.ofAccount other =
    (after (manager.perform device) keychain calls).ofAccount other
  /-- No key has two items. -/
  unique : ∀ key, ((after (manager.perform device) keychain calls).filter
    (manager.basicQuery device key).matches).length ≤ 1

/-- **The keychain manager is a finite map**, after any calls from a keychain without items of
the manager's query. -/
theorem manager_is_finite_map
    (hfresh : ∀ item ∈ keychain, (manager.keychainQuery.query device).matches item = false)
    (calls : List KeychainCall) : manager.IsMapAfter device keychain calls := by
  have hrep := represents_after hfresh calls
  refine ⟨?_, fun key => ⟨_, congrArg KeychainResult.found (find_of_represents hrep key)⟩,
    fun keychainCall => perform_throws, ?_, ?_⟩
  · intro key fault password h
    cases fault with
    | some code => cases h
    | none =>
      have hfind := find_of_represents hrep key
      simp only [KeychainManager.perform, hfind, KeychainResult.found.injEq, Except.ok.injEq] at h
      exact h.symm
  · intro key password faults other hne
    exact addPasswordToKeychains_other device manager hne password faults _
  · intro key
    have hlen := congrArg List.length (hrep key)
    rw [KeychainManager.stored, List.length_map] at hlen
    rw [hlen]
    exact Option.length_toList_le

end History

/-- The manager of `GenericPasswordQuery(accessGroup: .FirebasePassword)`, on a device. -/
def firebaseManager : KeychainManager := ⟨⟨"com.art", some "firebase-password"⟩⟩

/-- Two adds of one key between which another one fails; the keychain has an item of a
second group already. -/
theorem manager_is_finite_map_two_adds :
    firebaseManager.IsMapAfter ⟨false, "com.art", some "com.art", .first⟩
      [⟨"user-jwt", "com.art", "ann", none, "old".toUTF8⟩]
      [.addPasswordToKeychains "ann" "first" ⟨none, none⟩,
        .addPasswordToKeychains "ann" "lost" ⟨none, some (-34018)⟩,
        .addPasswordToKeychains "ann" "second" ⟨none, none⟩] ∧
    lastPassword "ann" (trace (firebaseManager.perform ⟨false, "com.art", some "com.art", .first⟩)
      [⟨"user-jwt", "com.art", "ann", none, "old".toUTF8⟩]
      [.addPasswordToKeychains "ann" "first" ⟨none, none⟩,
        .addPasswordToKeychains "ann" "lost" ⟨none, some (-34018)⟩,
        .addPasswordToKeychains "ann" "second" ⟨none, none⟩]) = some "second" :=
  ⟨manager_is_finite_map (by decide) _, by rfl⟩

end ArtExhibition
