import ArtExhibition.Machine.Slots
import ArtExhibition.Proof.KeychainMap

/-!
# What `deleteKeychain` deletes

`deleteKeychain` passes the manager's query without an account, so it deletes every item of
the manager, whatever its key (`deleteKeychain_cases`). A keychain that managers built holds
texts, and labels only where a manager with an access group put them (`builtByManagers`);
over such a keychain `deletes_one_iff` says exactly when a delete keeps all other finds, whatever
item the device picks where several match.
-/

namespace ArtExhibition

open Machine

/-- The items of a service under a key, of every access group. -/
def Keychain.ofService (keychain : Keychain) (service key : String) : Keychain :=
  keychain.filter fun item => item.service = service && item.account = key

/-- The password of the item that a query with the match limit of one gets among these. -/
def Device.pickedData (device : Device) (items : List KeychainItem) : Option ByteArray :=
  (device.matchLimitOne.pick items).map KeychainItem.valueData

/-- A delete that returns leaves nothing under its key and every other find as it was; one that
throws leaves every find as it was. -/
structure KeychainManager.DeletesOne (device : Device) (manager : KeychainManager) (key : String)
    (keychain : Keychain) (deleted : Except KeychainError Unit × Keychain) : Prop where
  own : deleted.1 = .ok () → manager.findPasswordInKeychains device key none deleted.2 = .ok none
  others : deleted.1 = .ok () → ∀ (other : KeychainManager) (otherKey : String),
    other ≠ manager ∨ otherKey ≠ key → ∀ fault,
      other.findPasswordInKeychains device otherKey fault deleted.2 =
        other.findPasswordInKeychains device otherKey fault keychain
  thrown : (∃ err, deleted.1 = .error err) → ∀ (other : KeychainManager) (otherKey : String) fault,
    other.findPasswordInKeychains device otherKey fault deleted.2 =
      other.findPasswordInKeychains device otherKey fault keychain

/-- The manager's items are those of one key and no other manager finds a change without them:
in a simulator build there are none; without access group, they were added without one; and
with an access group, the device picks the same password among all items of the service under the
key as among those that are not the manager's. -/
def KeychainManager.OnlyUnder (device : Device) (manager : KeychainManager) (key : String)
    (keychain : Keychain) : Prop :=
  let query := manager.keychainQuery.query device
  (∀ item ∈ keychain, query.matches item → item.account = key) ∧
    if device.simulator then ∀ item ∈ keychain, ¬ query.matches item
    else match manager.keychainQuery.accessGroup with
    | none => ∀ item ∈ keychain, query.matches item → item.label = none
    | some _ =>
      let found := keychain.ofService manager.keychainQuery.service key
      device.pickedData (found.filter fun item => !query.matches item) = device.pickedData found

/-! ### Finds -/

section Finds

variable {device : Device} {manager other : KeychainManager} {key otherKey : String}
  {keychain keychain' : Keychain}

/-- What the item found under a key carries. -/
def KeychainManager.foundData (device : Device) (manager : KeychainManager) (key : String)
    (keychain : Keychain) : Option ByteArray :=
  device.pickedData (keychain.filter (manager.basicQuery device key).matches)

/-- What a find makes of that. -/
def foundOf : Option ByteArray → Except KeychainError (Option String)
  | none => .ok none
  | some valueData =>
    match String.fromUTF8? valueData with
    | some password => .ok (some password)
    | none => .error .dataToStringConversionError

theorem find_eq (device : Device) (manager : KeychainManager) (key : String) (keychain : Keychain) :
    manager.findPasswordInKeychains device key none keychain =
      foundOf (manager.foundData device key keychain) := by
  unfold KeychainManager.findPasswordInKeychains Device.secItemCopyMatching KeychainManager.foundData
    Device.pickedData
  cases device.matchLimitOne.pick (keychain.filter (manager.basicQuery device key).matches) with
  | none => rfl
  | some item => rfl

theorem find_congr
    (h : manager.foundData device key keychain' = manager.foundData device key keychain)
    (fault : Option Int) :
    manager.findPasswordInKeychains device key fault keychain' =
      manager.findPasswordInKeychains device key fault keychain := by
  cases fault with
  | some code => rw [find_fault, find_fault]
  | none => rw [find_eq, find_eq, h]

/-- Every item carries a text. -/
def Keychain.IsText (keychain : Keychain) : Prop :=
  ∀ item ∈ keychain, ∃ password : String, item.valueData = password.toUTF8

theorem foundData_isText (h : keychain.IsText) {valueData : ByteArray}
    (hf : manager.foundData device key keychain = some valueData) :
    ∃ password : String, valueData = password.toUTF8 := by
  obtain ⟨item, hi, rfl⟩ := Option.map_eq_some_iff.mp hf
  exact h item (List.mem_filter.mp (device.matchLimitOne.mem _ item hi)).1

/-- Among texts, a find tells what is stored. -/
theorem foundOf_injective {first second : Option ByteArray}
    (hf : ∀ valueData, first = some valueData → ∃ password : String, valueData = password.toUTF8)
    (hs : ∀ valueData, second = some valueData → ∃ password : String, valueData = password.toUTF8)
    (h : foundOf first = foundOf second) : first = second := by
  rcases first with _ | first <;> rcases second with _ | second
  · rfl
  · obtain ⟨password, rfl⟩ := hs second rfl
    rw [foundOf, foundOf, fromUTF8?_toUTF8] at h
    cases h
  · obtain ⟨password, rfl⟩ := hf first rfl
    rw [foundOf, foundOf, fromUTF8?_toUTF8] at h
    cases h
  · obtain ⟨password, rfl⟩ := hf first rfl
    obtain ⟨password', rfl⟩ := hs second rfl
    rw [foundOf, foundOf, fromUTF8?_toUTF8, fromUTF8?_toUTF8] at h
    cases h
    rfl

theorem foundData_of_find (h : keychain.IsText) (h' : keychain'.IsText)
    (same : manager.findPasswordInKeychains device key none keychain' =
      manager.findPasswordInKeychains device key none keychain) :
    manager.foundData device key keychain' = manager.foundData device key keychain := by
  rw [find_eq, find_eq] at same
  exact foundOf_injective (fun _ => foundData_isText h') (fun _ => foundData_isText h) same

theorem foundData_eq_none_iff : manager.foundData device key keychain = none ↔
    ∀ item ∈ keychain, ¬ (manager.basicQuery device key).matches item := by
  rw [KeychainManager.foundData, Device.pickedData, Option.map_eq_none_iff, pick_eq_none_iff,
    List.filter_eq_nil_iff]

end Finds

/-! ### The delete -/

section Delete

variable {device : Device} {manager other : KeychainManager} {key otherKey : String}
  {keychain : Keychain}

/-- The keychain without the manager's items. -/
def KeychainManager.without (device : Device) (manager : KeychainManager) (keychain : Keychain) :
    Keychain :=
  keychain.filter fun item => !(manager.keychainQuery.query device).matches item

/-- The key is not read: a delete is `removeAllValues`. -/
theorem deleteKeychain_eq (device : Device) (manager : KeychainManager) (key : String)
    (fault : Option Int) (keychain : Keychain) :
    manager.deleteKeychain device key fault keychain = manager.removeAllValues device fault keychain :=
  rfl

/-- **What `deleteKeychain` does**: it throws and changes nothing, or deletes all the items. -/
theorem deleteKeychain_cases (device : Device) (manager : KeychainManager) (key : String)
    (fault : Option Int) (keychain : Keychain) :
    (fault.isSome ∧ ∃ err, manager.deleteKeychain device key fault keychain = (.error err, keychain)) ∨
      ¬ fault.isSome ∧
        manager.deleteKeychain device key fault keychain = (.ok (), manager.without device keychain) := by
  rw [deleteKeychain_eq]
  cases fault with
  | some code => exact .inl ⟨rfl, _, rfl⟩
  | none =>
    refine .inr ⟨nofun, ?_⟩
    rcases removeAllValues_cases device manager none keychain with ⟨err, thrown⟩ | removed
    · unfold KeychainManager.removeAllValues secItemDelete at thrown
      split at thrown <;> grind
    · exact removed

/-- A find that sees none of the deleted items gives what it gave. -/
theorem foundData_unseen
    (h : ∀ item ∈ keychain, (manager.keychainQuery.query device).matches item →
      ¬ (other.basicQuery device otherKey).matches item) :
    other.foundData device otherKey (manager.without device keychain) =
      other.foundData device otherKey keychain := by
  unfold KeychainManager.foundData KeychainManager.without
  congr 1
  rw [List.filter_filter]
  refine List.filter_congr fun item hi => ?_
  by_cases hm : (manager.keychainQuery.query device).matches item
  · simp [hm, h item hi hm]
  · simp [hm]

/-- A find of which every item is deleted finds nothing. -/
theorem foundData_gone (h : ∀ item, (other.basicQuery device otherKey).matches item →
    (manager.keychainQuery.query device).matches item) :
    other.foundData device otherKey (manager.without device keychain) = none := by
  rw [foundData_eq_none_iff]
  intro item hi hm
  have := (List.mem_filter.mp hi).2
  rw [h item hm] at this
  cases this

theorem matches_basicQuery_iff {item : KeychainItem} :
    (manager.basicQuery device key).matches item ↔
      (manager.keychainQuery.query device).matches item ∧ item.account = key := by
  simp only [SecQuery.matches, KeychainManager.basicQuery, GenericPasswordQuery.query,
    Option.all_some, Option.all_none, Bool.and_true, Bool.and_eq_true, decide_eq_true_eq]
  exact and_congr_right fun _ => eq_comm

theorem matches_query_simulator (hs : device.simulator) {generic : GenericPasswordQuery}
    {item : KeychainItem} :
    (generic.query device).matches item ↔ item.service = generic.service := by
  simp [SecQuery.matches, GenericPasswordQuery.query, hs]

theorem matches_query_device (hs : ¬ device.simulator) {generic : GenericPasswordQuery}
    {item : KeychainItem} :
    (generic.query device).matches item ↔ item.service = generic.service ∧
      ∀ group ∈ generic.accessGroup, group = item.accessGroup ∧ some group = item.label := by
  cases hg : generic.accessGroup <;>
    simp [SecQuery.matches, GenericPasswordQuery.query, hs, hg, and_assoc]

end Delete

/-! ### Keychains that managers built -/

section Built

variable {device : Device} {manager : KeychainManager} {keychain : Keychain}

/-- Every item carries a text, and a label only on a device and only that of its group. -/
structure Keychain.BuiltByManagers (device : Device) (keychain : Keychain) : Prop where
  isText : keychain.IsText
  label : ∀ item ∈ keychain, item.label = none ∨
    ¬ device.simulator ∧ item.label = some item.accessGroup

theorem builtByManagers_filter (h : keychain.BuiltByManagers device) (p : KeychainItem → Bool) :
    Keychain.BuiltByManagers device (keychain.filter p) :=
  ⟨fun item hi => h.isText item (List.mem_filter.mp hi).1,
    fun item hi => h.label item (List.mem_filter.mp hi).1⟩

theorem newItem_label (key : String) (valueData : ByteArray) :
    let item := manager.newItem device key valueData
    item.label = none ∨ ¬ device.simulator ∧ item.label = some item.accessGroup := by
  unfold KeychainManager.newItem KeychainManager.basicQuery GenericPasswordQuery.query
  cases device.simulator <;> cases manager.keychainQuery.accessGroup <;> simp

theorem add_builtByManagers (h : keychain.BuiltByManagers device) (key password : String)
    (faults : AddFaults) : Keychain.BuiltByManagers device
      (manager.addPasswordToKeychains device key password faults keychain).2 := by
  generalize hadd : manager.addPasswordToKeychains device key password faults keychain = result
  rcases result with ⟨err | result, keychain'⟩
  · rw [addPasswordToKeychains_throws hadd]
    exact h
  rcases addPasswordToKeychains_ok hadd with ⟨-, rfl⟩ | ⟨-, rfl⟩
  · constructor
    · rintro _ hm
      obtain ⟨item, hi, rfl⟩ := List.mem_map.mp hm
      split
      · exact ⟨password, rfl⟩
      · exact h.isText item hi
    · rintro _ hm
      obtain ⟨item, hi, rfl⟩ := List.mem_map.mp hm
      split <;> exact h.label item hi
  · exact ⟨forall_mem_snoc_iff.mpr ⟨h.isText, password, rfl⟩,
      forall_mem_snoc_iff.mpr ⟨h.label, newItem_label key _⟩⟩

/-- **One call** through any manager keeps it. -/
theorem perform_builtByManagers (h : keychain.BuiltByManagers device) (call : AnyKeychainCall) :
    Keychain.BuiltByManagers device (device.perform call keychain).2 := by
  have removes (manager : KeychainManager) (fault : Option Int) :
      Keychain.BuiltByManagers device (manager.removeAllValues device fault keychain).2 := by
    rcases removeAllValues_cases device manager fault keychain with ⟨err, hr⟩ | hr
    · rw [hr]
      exact h
    · rw [hr]
      exact builtByManagers_filter h _
  cases call with
  | perform manager keychainCall =>
    cases keychainCall with
    | addPasswordToKeychains key password faults => exact add_builtByManagers h key password faults
    | findPasswordInKeychains key fault => exact h
    | removeAllValues fault => exact removes manager fault
  | deleteKeychain manager key fault => exact removes manager fault

/-- **Every keychain built** through any managers. -/
theorem builtByManagers (device : Device) (calls : List AnyKeychainCall) :
    Keychain.BuiltByManagers device (after device.perform [] calls) :=
  trace_inv (I := fun _ keychain => Keychain.BuiltByManagers device keychain)
    (fun _ _ call h => perform_builtByManagers h call) calls (h := []) ⟨nofun, nofun⟩

end Built

/-! ### When a delete keeps the other finds -/

section DeletesOne

variable {device : Device} {manager other : KeychainManager} {key otherKey : String}
  {keychain : Keychain}

/-- On a device a manager without access group finds one of the items of its service. -/
theorem foundData_groupless (hs : ¬ device.simulator) (service : String) :
    KeychainManager.foundData device ⟨⟨service, none⟩⟩ key keychain =
      device.pickedData (keychain.ofService service key) := by
  rw [KeychainManager.foundData, Keychain.ofService]
  congr 1
  refine List.filter_congr fun item _ => ?_
  rw [Bool.eq_iff_iff, matches_basicQuery_iff, matches_query_device hs]
  simp

theorem ofService_without (service : String) :
    Keychain.ofService (manager.without device keychain) service key =
      (keychain.ofService service key).filter fun item =>
        !(manager.keychainQuery.query device).matches item := by
  rw [Keychain.ofService, Keychain.ofService, KeychainManager.without, List.filter_comm]

/-- A find under another key, or through a manager that no deleted item matches. -/
theorem others_unseen (hs : ¬ device.simulator) (only : manager.OnlyUnder device key keychain)
    (ne : other ≠ manager ∨ otherKey ≠ key)
    (overlap : other.keychainQuery.service = manager.keychainQuery.service →
      manager.keychainQuery.accessGroup ≠ none → other.keychainQuery.accessGroup ≠ none) :
    ∀ item ∈ keychain, (manager.keychainQuery.query device).matches item →
      ¬ (other.basicQuery device otherKey).matches item := by
  obtain ⟨account, groups⟩ := only
  rw [if_neg hs] at groups
  intro item hi hm hother
  have hk := account item hi hm
  rw [matches_basicQuery_iff] at hother
  obtain ⟨hq, hacc⟩ := hother
  have same_key : otherKey = key := hacc.symm.trans hk
  have hne := ne.resolve_right fun h => h same_key
  have hm' := (matches_query_device hs).mp hm
  have hq' := (matches_query_device hs).mp hq
  have service : other.keychainQuery.service = manager.keychainQuery.service := hq'.1.symm.trans hm'.1
  obtain ⟨⟨mine, group⟩⟩ := manager
  obtain ⟨⟨theirs, otherGroup⟩⟩ := other
  obtain rfl : theirs = mine := service
  cases group with
  | none =>
    cases otherGroup with
    | none => exact hne rfl
    | some g =>
      have unlabelled : item.label = none := groups item hi hm
      have := (hq'.2 g rfl).2
      rw [unlabelled] at this
      cases this
  | some g =>
    cases otherGroup with
    | none => exact overlap rfl nofun rfl
    | some g' =>
      have : g' = g := (hq'.2 g' rfl).1.trans (hm'.2 g rfl).1.symm
      exact hne (by rw [this])

/-- The condition is enough for every other find. -/
theorem others_of_onlyUnder (only : manager.OnlyUnder device key keychain)
    (ne : other ≠ manager ∨ otherKey ≠ key) :
    other.foundData device otherKey (manager.without device keychain) =
      other.foundData device otherKey keychain := by
  by_cases hs : device.simulator
  · have none_there := only.2
    rw [if_pos hs] at none_there
    exact foundData_unseen fun item hi hm => absurd hm (none_there item hi)
  by_cases overlap : other.keychainQuery.service = manager.keychainQuery.service →
      manager.keychainQuery.accessGroup ≠ none → other.keychainQuery.accessGroup ≠ none
  · exact foundData_unseen (others_unseen hs only ne overlap)
  -- the other manager has no access group, and this one has
  push Not at overlap
  obtain ⟨service, group, groupless⟩ := overlap
  by_cases hk : otherKey = key
  · subst hk
    obtain ⟨⟨mine, myGroup⟩⟩ := manager
    obtain ⟨⟨theirs, otherGroup⟩⟩ := other
    obtain rfl : theirs = mine := service
    obtain rfl : otherGroup = none := groupless
    obtain ⟨g, rfl⟩ := Option.ne_none_iff_exists'.mp group
    have same := only.2
    rw [if_neg hs] at same
    rw [foundData_groupless hs, foundData_groupless hs, ofService_without]
    exact same
  · exact foundData_unseen fun item hi hm hother => hk (by
      rw [← (matches_basicQuery_iff.mp hother).2, only.1 item hi hm])

/-- **When a delete would show**: keeping every other find, the condition holds. -/
theorem onlyUnder_of_others (built : keychain.BuiltByManagers device)
    (kept : ∀ (other : KeychainManager) (otherKey : String), other ≠ manager ∨ otherKey ≠ key →
      other.foundData device otherKey (manager.without device keychain) =
        other.foundData device otherKey keychain) :
    manager.OnlyUnder device key keychain := by
  -- a find of another manager or key that would find nothing afterwards finds nothing now
  have unfound : ∀ (other : KeychainManager) (otherKey : String), other ≠ manager ∨ otherKey ≠ key →
      (∀ item, (other.basicQuery device otherKey).matches item →
        (manager.keychainQuery.query device).matches item) →
      ∀ item ∈ keychain, ¬ (other.basicQuery device otherKey).matches item := by
    intro other otherKey ne part
    have := kept other otherKey ne
    rw [foundData_gone part] at this
    exact foundData_eq_none_iff.mp this.symm
  have account : ∀ item ∈ keychain, (manager.keychainQuery.query device).matches item →
      item.account = key := by
    intro item hi hm
    by_contra hne
    exact unfound manager item.account (.inr hne) (fun _ h => (matches_basicQuery_iff.mp h).1) item hi
      (matches_basicQuery_iff.mpr ⟨hm, rfl⟩)
  refine ⟨account, ?_⟩
  by_cases hs : device.simulator
  · rw [if_pos hs]
    intro item hi hm
    -- a manager of another access group has the same query
    obtain ⟨other, ne, service⟩ : ∃ other : KeychainManager, other ≠ manager ∧
        other.keychainQuery.service = manager.keychainQuery.service := by
      obtain ⟨⟨service, group⟩⟩ := manager
      cases group with
      | none => exact ⟨⟨⟨service, some ""⟩⟩, by simp, rfl⟩
      | some g => exact ⟨⟨⟨service, none⟩⟩, by simp, rfl⟩
    have same : ∀ item, (other.keychainQuery.query device).matches item ↔
        (manager.keychainQuery.query device).matches item := fun item => by
      rw [matches_query_simulator hs, matches_query_simulator hs, service]
    exact unfound other key (.inl ne) (fun _ h => (same _).mp (matches_basicQuery_iff.mp h).1) item hi
      (matches_basicQuery_iff.mpr ⟨(same item).mpr hm, account item hi hm⟩)
  rw [if_neg hs]
  obtain ⟨⟨service, group⟩⟩ := manager
  cases group with
  | none =>
    intro item hi hm
    rcases built.label item hi with none | ⟨-, labelled⟩
    · exact none
    -- the manager of the item's group finds it too
    exfalso
    have hm' := (matches_query_device hs).mp hm
    refine unfound ⟨⟨service, some item.accessGroup⟩⟩ key (.inl (by simp)) (fun item' h => ?_) item hi
      (matches_basicQuery_iff.mpr ⟨?_, account item hi hm⟩)
    · have := (matches_query_device hs).mp (matches_basicQuery_iff.mp h).1
      exact (matches_query_device hs).mpr ⟨this.1, nofun⟩
    · refine (matches_query_device hs).mpr ⟨hm'.1, ?_⟩
      rintro _ ⟨⟩
      exact ⟨rfl, labelled.symm⟩
  | some g =>
    have groupless := kept ⟨⟨service, none⟩⟩ key (.inl (by simp))
    rw [foundData_groupless hs, foundData_groupless hs, ofService_without] at groupless
    exact groupless

/-- **When `deleteKeychain` removes one entry.** Over every keychain that any managers built,
for every manager and key: exactly when the Security call fails, or the manager's items are
those of the key and no other manager finds a change without them. -/
theorem deletes_one_iff (device : Device) (calls : List AnyKeychainCall) (manager : KeychainManager)
    (key : String) (fault : Option Int) :
    let keychain := after device.perform [] calls
    manager.DeletesOne device key keychain (manager.deleteKeychain device key fault keychain) ↔
      fault.isSome ∨ manager.OnlyUnder device key keychain := by
  extract_lets keychain
  have built : keychain.BuiltByManagers device := builtByManagers device calls
  rcases deleteKeychain_cases device manager key fault keychain with
    ⟨failed, err, deleted⟩ | ⟨succeeded, deleted⟩
  · rw [deleted]
    exact iff_of_true ⟨nofun, nofun, fun _ _ _ _ => rfl⟩ (.inl failed)
  · rw [deleted, or_iff_right succeeded]
    have text : (manager.without device keychain).IsText := (builtByManagers_filter built _).isText
    constructor
    · intro one
      exact onlyUnder_of_others built fun other otherKey ne =>
        foundData_of_find built.isText text (one.others rfl other otherKey ne none)
    · intro only
      refine ⟨fun _ => ?_, fun _ other otherKey ne fault => ?_, ?_⟩
      · rw [find_eq, foundData_gone fun _ h => (matches_basicQuery_iff.mp h).1]
        rfl
      · exact find_congr (others_of_onlyUnder only ne) fault
      · rintro ⟨err, ⟨⟩⟩

/-- Two passwords of the Firebase manager. -/
def twoPasswords : List AnyKeychainCall :=
  [.perform firebaseManager (.addPasswordToKeychains "ann" "first" ⟨none, none⟩),
    .perform firebaseManager (.addPasswordToKeychains "bob" "second" ⟨none, none⟩)]

/-- **A delete wipes the manager**: deleting `ann`'s password deletes `bob`'s. -/
theorem delete_wipes :
    let device : Device := ⟨false, "com.art", some "com.art", .first⟩
    let keychain := after device.perform [] twoPasswords
    let deleted := firebaseManager.deleteKeychain device "ann" none keychain
    deleted.1 = .ok () ∧
      firebaseManager.findPasswordInKeychains device "bob" none keychain = .ok (some "second") ∧
      firebaseManager.findPasswordInKeychains device "bob" none deleted.2 = .ok none ∧
      ¬ firebaseManager.DeletesOne device "ann" keychain deleted := by
  refine ⟨rfl, rfl, rfl, fun one => ?_⟩
  have kept := one.others rfl firebaseManager "bob" (.inr (by decide)) none
  cases kept

end DeletesOne

end ArtExhibition
