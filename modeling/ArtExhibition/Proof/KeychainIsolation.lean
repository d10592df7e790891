import ArtExhibition.Proof.KeychainMap

/-!
# Two keychain managers on one keychain

`NonInterfering` says of two managers that the results of each, in any interleaving, are
those without the other's calls. A manager stays in a part of the keychain (`p`) when its
queries match items of `p` only and its new items are in `p`: then its calls act on `p` as
on a keychain of its own (`perform_filter`). A manager that stays out of `p` leaves it
alone (`perform_outside`).

`nonInterfering_iff`: managers with different queries do not interfere exactly when their
services differ, or when both name an access group and the build is for a device. A query
without a group finds the items of every group (`nil_group_interferes`), and the
simulator's queries never have one.
-/

namespace ArtExhibition

open Machine

/-- A call of the first manager or of the second. -/
def performEither (device : Device) (first second : KeychainManager) :
    KeychainCall ⊕ KeychainCall → Keychain → KeychainResult × Keychain
  | .inl keychainCall => first.perform device keychainCall
  | .inr keychainCall => second.perform device keychainCall

/-- The results of each manager are those without the other's calls. -/
def NonInterfering (device : Device) (first second : KeychainManager) : Prop :=
  ∀ (keychain : Keychain) (calls : List (KeychainCall ⊕ KeychainCall)),
    (trace (performEither device first second) keychain calls).filter (fun entry => entry.1.isLeft) =
      trace (performEither device first second) keychain (calls.filter Sum.isLeft) ∧
    (trace (performEither device first second) keychain calls).filter (fun entry => entry.1.isRight) =
      trace (performEither device first second) keychain (calls.filter Sum.isRight)

/-- A part of the keychain, told by access group and service. -/
def IsZone (p : KeychainItem → Bool) : Prop :=
  ∀ item other : KeychainItem, item.accessGroup = other.accessGroup → item.service = other.service →
    p item = p other

/-- The manager's queries match items of `p` only, and its new items are in `p`. -/
structure KeychainManager.StaysIn (device : Device) (manager : KeychainManager)
    (p : KeychainItem → Bool) : Prop where
  found : ∀ item, (manager.keychainQuery.query device).matches item → p item
  added : ∀ key valueData, p (manager.newItem device key valueData)

/-- The manager's queries match no item of `p`, and its new items are outside. -/
structure KeychainManager.StaysOut (device : Device) (manager : KeychainManager)
    (p : KeychainItem → Bool) : Prop where
  found : ∀ item, (manager.keychainQuery.query device).matches item → p item = false
  added : ∀ key valueData, p (manager.newItem device key valueData) = false

/-! ## The Security calls on a part of the keychain -/

section SecItem

variable {p : KeychainItem → Bool} {query : SecQuery}

theorem any_filter_of_found {q : KeychainItem → Bool} (hq : ∀ item, q item → p item) (keychain : Keychain) :
    (keychain.filter p).any q = keychain.any q := by
  rw [Bool.eq_iff_iff, List.any_eq_true, List.any_eq_true]
  constructor
  · rintro ⟨item, hitem, h⟩
    exact ⟨item, (List.mem_filter.1 hitem).1, h⟩
  · rintro ⟨item, hitem, h⟩
    exact ⟨item, List.mem_filter.2 ⟨hitem, hq item h⟩, h⟩

theorem copyMatching_filter (device : Device) (hq : ∀ item, query.matches item → p item)
    (fault : Option Int) (keychain : Keychain) :
    device.secItemCopyMatching fault query (keychain.filter p) =
      device.secItemCopyMatching fault query keychain := by
  have hmatching : (keychain.filter p).filter query.matches = keychain.filter query.matches := by
    rw [List.filter_filter]
    refine List.filter_congr fun item _ => ?_
    by_cases hm : query.matches item
    · simp [hm, hq item hm]
    · simp [hm]
  unfold Device.secItemCopyMatching
  rw [hmatching]

theorem filter_update (hp : IsZone p) (valueData : ByteArray) (keychain : Keychain) :
    (keychain.map fun item =>
        if query.matches item then { item with valueData := valueData } else item).filter p =
      (keychain.filter p).map fun item =>
        if query.matches item then { item with valueData := valueData } else item := by
  rw [List.filter_map]
  congr 1
  refine List.filter_congr fun item _ => ?_
  refine hp _ _ ?_ ?_
  · dsimp only
    split <;> rfl
  · dsimp only
    split <;> rfl

theorem secItemUpdate_filter (hp : IsZone p) (hq : ∀ item, query.matches item → p item)
    (fault : Option Int) (valueData : ByteArray) (keychain : Keychain) :
    secItemUpdate fault query valueData (keychain.filter p) =
      ((secItemUpdate fault query valueData keychain).1,
        (secItemUpdate fault query valueData keychain).2.filter p) := by
  unfold secItemUpdate
  cases fault with
  | some code => rfl
  | none =>
    simp only [any_filter_of_found hq]
    by_cases hany : keychain.any query.matches
    · simp only [hany, if_true, filter_update hp]
    · simp only [hany, if_false, Bool.false_eq_true]

theorem secItemDelete_filter (hq : ∀ item, query.matches item → p item) (fault : Option Int)
    (keychain : Keychain) :
    secItemDelete fault query (keychain.filter p) =
      ((secItemDelete fault query keychain).1, (secItemDelete fault query keychain).2.filter p) := by
  unfold secItemDelete
  cases fault with
  | some code => rfl
  | none =>
    simp only [any_filter_of_found hq]
    by_cases hany : keychain.any query.matches
    · simp only [hany, if_true, List.filter_filter, Bool.and_comm]
    · simp only [hany, if_false, Bool.false_eq_true]

theorem secItemAdd_filter (hp : IsZone p) {device : Device} (fault : Option Int) (key : String)
    (valueData : ByteArray)
    (hnew : p ⟨query.accessGroup.getD device.defaultAccessGroup, query.service, key, query.label, valueData⟩)
    (keychain : Keychain) :
    device.secItemAdd fault query key valueData (keychain.filter p) =
      ((device.secItemAdd fault query key valueData keychain).1,
        (device.secItemAdd fault query key valueData keychain).2.filter p) := by
  unfold Device.secItemAdd
  cases fault with
  | some code => rfl
  | none =>
    dsimp only
    -- an item of the new one's identity is in the same part
    rw [any_filter_of_found fun item h => by
      simp only [Bool.and_eq_true, decide_eq_true_eq] at h
      exact (hp item _ h.1.1 h.1.2).trans hnew]
    split
    · rfl
    · rw [List.filter_append, List.filter_cons_of_pos hnew, List.filter_nil]

end SecItem

/-! ## One call on a part of the keychain -/

section Calls

variable {device : Device} {manager : KeychainManager} {p : KeychainItem → Bool}

theorem findPasswordInKeychains_filter (hin : manager.StaysIn device p) (key : String)
    (fault : Option Int) (keychain : Keychain) :
    manager.findPasswordInKeychains device key fault (keychain.filter p) =
      manager.findPasswordInKeychains device key fault keychain := by
  unfold KeychainManager.findPasswordInKeychains
  rw [copyMatching_filter device fun item h => hin.found item (matches_query_of_basicQuery h)]

theorem removeAllValues_filter (hin : manager.StaysIn device p) (fault : Option Int)
    (keychain : Keychain) :
    manager.removeAllValues device fault (keychain.filter p) =
      ((manager.removeAllValues device fault keychain).1,
        (manager.removeAllValues device fault keychain).2.filter p) := by
  unfold KeychainManager.removeAllValues
  rw [secItemDelete_filter hin.found]
  rcases secItemDelete fault (manager.keychainQuery.query device) keychain with ⟨status, keychain'⟩
  cases status <;> rfl

theorem addPasswordToKeychains_filter (hp : IsZone p) (hin : manager.StaysIn device p)
    (key password : String) (faults : AddFaults) (keychain : Keychain) :
    manager.addPasswordToKeychains device key password faults (keychain.filter p) =
      ((manager.addPasswordToKeychains device key password faults keychain).1,
        (manager.addPasswordToKeychains device key password faults keychain).2.filter p) := by
  have hbasic : ∀ item, (manager.basicQuery device key).matches item → p item := fun item h =>
    hin.found item (matches_query_of_basicQuery h)
  unfold KeychainManager.addPasswordToKeychains
  dsimp only
  rw [copyMatching_filter device hbasic, secItemUpdate_filter hp hbasic,
    secItemAdd_filter hp _ _ _ (hin.added key password.toUTF8)]
  rcases (device.secItemCopyMatching faults.copyMatching (manager.basicQuery device key) keychain).1 with
    - | - | - | code
  · rcases secItemUpdate faults.updateOrAdd (manager.basicQuery device key) password.toUTF8 keychain with
      ⟨status, keychain'⟩
    cases status <;> rfl
  · rcases device.secItemAdd faults.updateOrAdd (manager.basicQuery device key) key password.toUTF8
      keychain with ⟨status, keychain'⟩
    cases status <;> rfl
  · rfl
  · rfl

/-- **A manager that stays in a part** acts on it as on a keychain of its own. -/
theorem perform_filter (hp : IsZone p) (hin : manager.StaysIn device p) (keychainCall : KeychainCall)
    (keychain : Keychain) :
    manager.perform device keychainCall (keychain.filter p) =
      ((manager.perform device keychainCall keychain).1,
        (manager.perform device keychainCall keychain).2.filter p) := by
  cases keychainCall with
  | findPasswordInKeychains key fault =>
    simp only [KeychainManager.perform, findPasswordInKeychains_filter hin]
  | removeAllValues fault => simp only [KeychainManager.perform, removeAllValues_filter hin]
  | addPasswordToKeychains key password faults =>
    simp only [KeychainManager.perform, addPasswordToKeychains_filter hp hin]

/-- **A manager that stays out of a part** leaves it alone. -/
theorem perform_outside (hp : IsZone p) (hout : manager.StaysOut device p) (keychainCall : KeychainCall)
    (keychain : Keychain) :
    (manager.perform device keychainCall keychain).2.filter p = keychain.filter p := by
  cases keychainCall with
  | findPasswordInKeychains key fault => rfl
  | removeAllValues fault =>
    simp only [KeychainManager.perform]
    rcases removeAllValues_cases device manager fault keychain with ⟨err, hr⟩ | hr
    · rw [hr]
    · rw [hr, List.filter_filter]
      refine List.filter_congr fun item _ => ?_
      by_cases hm : (manager.keychainQuery.query device).matches item
      · simp [hm, hout.found item hm]
      · simp [hm]
  | addPasswordToKeychains key password faults =>
    simp only [KeychainManager.perform]
    generalize hadd : manager.addPasswordToKeychains device key password faults keychain = result
    rcases result with ⟨err | result, keychain'⟩
    · rw [addPasswordToKeychains_throws hadd]
    rcases addPasswordToKeychains_ok hadd with ⟨-, rfl⟩ | ⟨-, rfl⟩
    · dsimp only
      rw [filter_update hp, List.map_congr_left, List.map_id]
      intro item hitem
      -- an item of the part does not match, so it is not updated
      have hm : (manager.basicQuery device key).matches item = false := by
        by_contra h
        have := hout.found item (matches_query_of_basicQuery (by simpa using h))
        rw [(List.mem_filter.1 hitem).2] at this
        cases this
      simp [hm]
    · rw [List.filter_append, List.filter_cons_of_neg (by simp [hout.added]), List.filter_nil,
        List.append_nil]

end Calls

/-! ## Two managers -/

section Managers

variable {device : Device} {first second : KeychainManager} {p : KeychainItem → Bool}

/-- **Unwinding for a part.** A manager that stays in a part gets what it gets without the
calls of one that stays out of it. -/
theorem trace_mine {step : KeychainCall ⊕ KeychainCall → Keychain → KeychainResult × Keychain}
    {mine : KeychainCall ⊕ KeychainCall → Bool} {p : KeychainItem → Bool}
    (hin : ∀ c keychain, mine c →
      step c (keychain.filter p) = ((step c keychain).1, (step c keychain).2.filter p))
    (hout : ∀ c keychain, mine c = false → (step c keychain).2.filter p = keychain.filter p)
    (keychain : Keychain) (calls : List (KeychainCall ⊕ KeychainCall)) :
    (trace step keychain calls).filter (fun entry => mine entry.1) =
      trace step keychain (calls.filter mine) := by
  have hsame : ∀ c s t, mine c → s.filter p = t.filter p →
      (step c s).1 = (step c t).1 ∧ (step c s).2.filter p = (step c t).2.filter p := by
    intro c s t hc hst
    have hs := hin c s hc
    rw [hst, hin c t hc] at hs
    exact ⟨(Prod.mk.inj hs).1.symm, (Prod.mk.inj hs).2.symm⟩
  refine trace_filter (V := Keychain) ?_ ?_ hout calls rfl
  · exact fun c s t hc hst => (hsame c s t hc hst).1
  · exact fun c s t hc hst => (hsame c s t hc hst).2

theorem nonInterfering_of_zones {p q : KeychainItem → Bool} (hp : IsZone p) (hq : IsZone q)
    (hfirst : first.StaysIn device p) (hsecond : second.StaysOut device p)
    (hsecond' : second.StaysIn device q) (hfirst' : first.StaysOut device q) :
    NonInterfering device first second := by
  intro keychain calls
  constructor
  · refine trace_mine (p := p) ?_ ?_ keychain calls
    · rintro (c | c) keychain hc
      · exact perform_filter hp hfirst c keychain
      · cases hc
    · rintro (c | c) keychain hc
      · cases hc
      · exact perform_outside hp hsecond c keychain
  · refine trace_mine (p := q) ?_ ?_ keychain calls
    · rintro (c | c) keychain hc
      · cases hc
      · exact perform_filter hq hsecond' c keychain
    · rintro (c | c) keychain hc
      · exact perform_outside hq hfirst' c keychain
      · cases hc

/-! ### The zones of a manager -/

def inService (service : String) (item : KeychainItem) : Bool := item.service = service

def inAccessGroup (accessGroup : String) (item : KeychainItem) : Bool := item.accessGroup = accessGroup

theorem isZone_inService (service : String) : IsZone (inService service) := by
  intro item other _ h
  simp [inService, h]

theorem isZone_inAccessGroup (accessGroup : String) : IsZone (inAccessGroup accessGroup) := by
  intro item other h _
  simp [inAccessGroup, h]

theorem staysIn_service (manager : KeychainManager) :
    manager.StaysIn device (inService manager.keychainQuery.service) := by
  constructor
  · intro item h
    simp only [SecQuery.matches, GenericPasswordQuery.query, Bool.and_eq_true] at h
    exact h.1.1.1
  · intro key valueData
    simp [inService, KeychainManager.newItem, KeychainManager.basicQuery, GenericPasswordQuery.query]

theorem staysIn_accessGroup {accessGroup : String} (hdevice : device.simulator = false)
    (hgroup : first.keychainQuery.accessGroup = some accessGroup) :
    first.StaysIn device (inAccessGroup accessGroup) := by
  constructor
  · intro item h
    simp only [SecQuery.matches, GenericPasswordQuery.query, hdevice, hgroup, Bool.false_eq_true, if_false,
      Option.all_some, Bool.and_eq_true, decide_eq_true_eq] at h
    simp [inAccessGroup, h.1.1.2]
  · intro key valueData
    simp [inAccessGroup, KeychainManager.newItem, KeychainManager.basicQuery, GenericPasswordQuery.query,
      hdevice, hgroup]

/-- A manager that stays in one part stays out of the disjoint ones. -/
theorem StaysIn.staysOut {p q : KeychainItem → Bool} (hin : first.StaysIn device p)
    (hpq : ∀ item, p item → q item = false) : first.StaysOut device q :=
  ⟨fun item h => hpq item (hin.found item h), fun key valueData => hpq _ (hin.added key valueData)⟩

theorem inService_disjoint {service other : String} (h : service ≠ other) (item : KeychainItem)
    (hitem : inService service item) : inService other item = false := by
  simp only [inService, decide_eq_true_eq] at hitem
  simpa [inService, hitem] using h

theorem inAccessGroup_disjoint {accessGroup other : String} (h : accessGroup ≠ other) (item : KeychainItem)
    (hitem : inAccessGroup accessGroup item) : inAccessGroup other item = false := by
  simp only [inAccessGroup, decide_eq_true_eq] at hitem
  simpa [inAccessGroup, hitem] using h

/-! ### When two managers interfere -/

/-- A find of `reader` on what `writer` added alone. -/
theorem find_added {reader writer : KeychainManager} (key password : String)
    (hfound : (reader.basicQuery device key).matches (writer.newItem device key password.toUTF8)) :
    reader.findPasswordInKeychains device key none [writer.newItem device key password.toUTF8] =
      .ok (some password) := by
  have hmatching : [writer.newItem device key password.toUTF8].filter (reader.basicQuery device key).matches =
      [writer.newItem device key password.toUTF8] := List.filter_cons_of_pos hfound
  unfold KeychainManager.findPasswordInKeychains Device.secItemCopyMatching
  rw [hmatching, pick_singleton]
  dsimp only
  rw [show (writer.newItem device key password.toUTF8).valueData = password.toUTF8 from rfl,
    fromUTF8?_toUTF8]

theorem copyMatching_empty (query : SecQuery) :
    device.secItemCopyMatching none query [] = (.errSecItemNotFound, none) := by
  unfold Device.secItemCopyMatching
  rw [List.filter_nil, (pick_eq_none_iff []).2 rfl]

theorem add_empty (key password : String) :
    first.addPasswordToKeychains device key password ⟨none, none⟩ [] =
      (.ok true, [first.newItem device key password.toUTF8]) := by
  unfold KeychainManager.addPasswordToKeychains
  dsimp only
  rw [copyMatching_empty]
  rfl

theorem find_empty (key : String) :
    first.findPasswordInKeychains device key none [] = .ok none := by
  unfold KeychainManager.findPasswordInKeychains
  rw [copyMatching_empty]

/-- **Managers interfere** when one finds what the other adds. -/
theorem interfering_of_found (hfound : (first.basicQuery device "key").matches
      (second.newItem device "key" "password".toUTF8) ∨
    (second.basicQuery device "key").matches (first.newItem device "key" "password".toUTF8)) :
    ¬ NonInterfering device first second := by
  intro h
  rcases hfound with hfound | hfound
  · have hl := (h [] [.inr (.addPasswordToKeychains "key" "password" ⟨none, none⟩),
      .inl (.findPasswordInKeychains "key" none)]).1
    simp only [trace, performEither, KeychainManager.perform, add_empty, find_added _ _ hfound,
      find_empty, List.filter_cons, List.filter_nil, Sum.isLeft_inl, Sum.isLeft_inr, if_true,
      Bool.false_eq_true, if_false] at hl
    simp at hl
  · have hr := (h [] [.inl (.addPasswordToKeychains "key" "password" ⟨none, none⟩),
      .inr (.findPasswordInKeychains "key" none)]).2
    simp only [trace, performEither, KeychainManager.perform, add_empty, find_added _ _ hfound,
      find_empty, List.filter_cons, List.filter_nil, Sum.isRight_inl, Sum.isRight_inr, if_true,
      Bool.false_eq_true, if_false] at hr
    simp at hr

/-- A query without an access group finds the items of its service in every group. -/
theorem found_of_no_group {reader writer : KeychainManager} {key : String} (valueData : ByteArray)
    (hservice : reader.keychainQuery.service = writer.keychainQuery.service)
    (hgroup : device.simulator ∨ reader.keychainQuery.accessGroup = none) :
    (reader.basicQuery device key).matches (writer.newItem device key valueData) := by
  rcases hgroup with h | h
  · simp [SecQuery.matches, KeychainManager.basicQuery, GenericPasswordQuery.query,
      KeychainManager.newItem, hservice, h]
  · simp [SecQuery.matches, KeychainManager.basicQuery, GenericPasswordQuery.query,
      KeychainManager.newItem, hservice, h]

/-- Two queries that tell the items of two managers apart. -/
def Apart (device : Device) (first second : GenericPasswordQuery) : Prop :=
  first.service ≠ second.service ∨
    device.simulator = false ∧ first.accessGroup.isSome ∧ second.accessGroup.isSome

theorem nonInterfering_of_services (hservice : first.keychainQuery.service ≠ second.keychainQuery.service) :
    NonInterfering device first second :=
  nonInterfering_of_zones (isZone_inService _) (isZone_inService _) (staysIn_service first)
    (StaysIn.staysOut (staysIn_service second) (inService_disjoint hservice.symm))
    (staysIn_service second)
    (StaysIn.staysOut (staysIn_service first) (inService_disjoint hservice))

theorem nonInterfering_of_accessGroups {a b : String} (hdevice : device.simulator = false)
    (hfirst : first.keychainQuery.accessGroup = some a)
    (hsecond : second.keychainQuery.accessGroup = some b) (hab : a ≠ b) :
    NonInterfering device first second :=
  nonInterfering_of_zones (isZone_inAccessGroup a) (isZone_inAccessGroup b)
    (staysIn_accessGroup hdevice hfirst)
    (StaysIn.staysOut (staysIn_accessGroup hdevice hsecond) (inAccessGroup_disjoint hab.symm))
    (staysIn_accessGroup hdevice hsecond)
    (StaysIn.staysOut (staysIn_accessGroup hdevice hfirst) (inAccessGroup_disjoint hab))

/-- **Managers with different queries do not interfere** exactly when their services differ, or
when the build is for a device and both name an access group. -/
theorem nonInterfering_iff (device : Device) {first second : KeychainManager}
    (hne : first.keychainQuery ≠ second.keychainQuery) :
    NonInterfering device first second ↔ Apart device first.keychainQuery second.keychainQuery := by
  by_cases hservice : first.keychainQuery.service = second.keychainQuery.service
  · by_cases hnil : device.simulator ∨ first.keychainQuery.accessGroup = none ∨
        second.keychainQuery.accessGroup = none
    · refine iff_of_false (interfering_of_found ?_) ?_
      · rcases hnil with h | h | h
        · exact .inl (found_of_no_group _ hservice (.inl h))
        · exact .inl (found_of_no_group _ hservice (.inr h))
        · exact .inr (found_of_no_group _ hservice.symm (.inr h))
      · rintro (h | ⟨hdevice, hfirst, hsecond⟩)
        · exact h hservice
        · rcases hnil with h | h | h
          · rw [hdevice] at h
            cases h
          · rw [h] at hfirst
            cases hfirst
          · rw [h] at hsecond
            cases hsecond
    · push Not at hnil
      obtain ⟨hdevice, hfirst, hsecond⟩ := hnil
      obtain ⟨a, ha⟩ := Option.ne_none_iff_exists'.1 hfirst
      obtain ⟨b, hb⟩ := Option.ne_none_iff_exists'.1 hsecond
      have hdevice : device.simulator = false := by simpa using hdevice
      have hab : a ≠ b := by
        rintro rfl
        -- with the services equal, equal groups would make the queries equal
        refine hne ?_
        rcases hf : first.keychainQuery with ⟨service, accessGroup⟩
        rcases hs : second.keychainQuery with ⟨service', accessGroup'⟩
        simp_all
      refine iff_of_true (nonInterfering_of_accessGroups hdevice ha hb hab) (.inr ⟨hdevice, ?_, ?_⟩)
      · rw [ha]
        rfl
      · rw [hb]
        rfl
  · exact iff_of_true (nonInterfering_of_services hservice) (.inl hservice)

end Managers

/-- Two groups of one service, on a device. -/
theorem nonInterfering_iff_groups :
    NonInterfering ⟨false, "com.art", some "com.art", .first⟩ firebaseManager ⟨⟨"com.art", some "user-jwt"⟩⟩ :=
  (nonInterfering_iff _ (by decide)).2 (.inr ⟨rfl, rfl, rfl⟩)

/-- A manager without an access group finds the password that another one adds. -/
theorem nil_group_interferes :
    (⟨"com.art", none⟩ : GenericPasswordQuery) ≠ firebaseManager.keychainQuery ∧
      ¬ NonInterfering ⟨false, "com.art", some "com.art", .first⟩ ⟨⟨"com.art", none⟩⟩ firebaseManager :=
  ⟨by decide, interfering_of_found (.inl (by decide))⟩

end ArtExhibition
