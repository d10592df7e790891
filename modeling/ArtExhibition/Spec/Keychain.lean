import Mathlib.Data.List.Basic
import Mathlib.Tactic.Common

/-!
# The keychain and `KeychainManager`

The generic password items of the keychain, the Security calls on them (`SecItem…`), and
the functions of `KeychainManager` with the query of `GenericPasswordQuery`.

An item matches a query iff it agrees with every attribute the query has. Its identity is
access group, service and account: an add of one that exists fails. Each Security call may
also fail with a status of its own (`fault`), and then has no effect. Which of several matching
items a query with the match limit of one gets is up to the device (`MatchLimitOne`).
-/

namespace ArtExhibition

inductive OSStatus
  | errSecSuccess | errSecItemNotFound | errSecDuplicateItem
  | other (code : Int)
  deriving DecidableEq, Repr

/-- An item of class `kSecClassGenericPassword`. -/
structure KeychainItem where
  accessGroup : String
  service : String
  account : String
  label : Option String
  valueData : ByteArray

abbrev Keychain := List KeychainItem

/-- The attributes of a query; the class is always `kSecClassGenericPassword`. -/
structure SecQuery where
  service : String
  accessGroup : Option String
  label : Option String
  account : Option String
  deriving DecidableEq, Repr

def SecQuery.matches (query : SecQuery) (item : KeychainItem) : Bool :=
  item.service = query.service && query.accessGroup.all (· = item.accessGroup) &&
    query.label.all (some · = item.label) && query.account.all (· = item.account)

/-- `SecItemUpdate` of `kSecValueData`, on every matching item. -/
def secItemUpdate (fault : Option Int) (query : SecQuery) (valueData : ByteArray)
    (keychain : Keychain) : OSStatus × Keychain :=
  match fault with
  | some code => (.other code, keychain)
  | none =>
    if keychain.any query.matches then
      (.errSecSuccess, keychain.map fun item =>
        if query.matches item then { item with valueData := valueData } else item)
    else (.errSecItemNotFound, keychain)

/-- What a query with `kSecMatchLimitOne` gets of the items that match it: one of them, if there is
any. -/
structure MatchLimitOne where
  pick : List KeychainItem → Option KeychainItem
  mem : ∀ items, ∀ item ∈ pick items, item ∈ items
  isSome : ∀ items ≠ [], (pick items).isSome

/-- The item that was added first. -/
def MatchLimitOne.first : MatchLimitOne where
  pick := List.head?
  mem _ _ := List.mem_of_mem_head?
  isSome _ := List.isSome_head?.2

/-- The device: whether it is the simulator, the app's default access group, its bundle id, and its
choice among matching items. -/
structure Device where
  simulator : Bool
  defaultAccessGroup : String
  bundleIdentifier : Option String
  matchLimitOne : MatchLimitOne

/-- `SecItemCopyMatching`, with the match limit of one. -/
def Device.secItemCopyMatching (device : Device) (fault : Option Int) (query : SecQuery)
    (keychain : Keychain) : OSStatus × Option KeychainItem :=
  match fault, device.matchLimitOne.pick (keychain.filter query.matches) with
  | some code, _ => (.other code, none)
  | none, some item => (.errSecSuccess, some item)
  | none, none => (.errSecItemNotFound, none)

/-- `SecItemAdd` of a query with an account: an item without access group gets the default one. -/
def Device.secItemAdd (device : Device) (fault : Option Int) (query : SecQuery) (account : String)
    (valueData : ByteArray) (keychain : Keychain) : OSStatus × Keychain :=
  match fault with
  | some code => (.other code, keychain)
  | none =>
    let item : KeychainItem :=
      { accessGroup := query.accessGroup.getD device.defaultAccessGroup
        service := query.service, account := account, label := query.label, valueData := valueData }
    if keychain.any fun other => other.accessGroup = item.accessGroup &&
        other.service = item.service && other.account = item.account then
      (.errSecDuplicateItem, keychain)
    else (.errSecSuccess, keychain ++ [item])

/-- `SecItemDelete`, of every matching item. -/
def secItemDelete (fault : Option Int) (query : SecQuery) (keychain : Keychain) : OSStatus × Keychain :=
  match fault with
  | some code => (.other code, keychain)
  | none =>
    if keychain.any query.matches then
      (.errSecSuccess, keychain.filter fun item => !query.matches item)
    else (.errSecItemNotFound, keychain)

/-! ## The manager -/

inductive KeychainError
  | stringToDataConversionError | dataToStringConversionError
  | unhandledError (status : OSStatus)
  deriving DecidableEq, Repr

inductive KeychainKey
  | JWT | SoftOTPPin | TokenSeed | FirebasePassword
  deriving DecidableEq, Repr

def KeychainKey.rawValue : KeychainKey → String
  | .JWT => "user-jwt"
  | .SoftOTPPin => "soft-otp-pin"
  | .TokenSeed => "token-seed"
  | .FirebasePassword => "firebase-password"

structure GenericPasswordQuery where
  service : String
  accessGroup : Option String
  deriving DecidableEq, Repr

/-- `GenericPasswordQuery.init` with the default service. -/
def GenericPasswordQuery.default (device : Device) (accessGroup : Option KeychainKey) :
    GenericPasswordQuery :=
  ⟨device.bundleIdentifier.getD "", accessGroup.map KeychainKey.rawValue⟩

/-- `GenericPasswordQuery.query`. Simulator builds leave the access group and the label out. -/
def GenericPasswordQuery.query (device : Device) (generic : GenericPasswordQuery) : SecQuery where
  service := generic.service
  accessGroup := if device.simulator then none else generic.accessGroup
  label := if device.simulator then none else generic.accessGroup
  account := none

structure KeychainManager where
  keychainQuery : GenericPasswordQuery
  deriving DecidableEq, Repr

/-- `basicQuery`, with `key` as its account. -/
def KeychainManager.basicQuery (device : Device) (manager : KeychainManager) (key : String) : SecQuery :=
  { manager.keychainQuery.query device with account := some key }

/-- The failures of the two Security calls of `addPasswordToKeychains`. -/
structure AddFaults where
  copyMatching : Option Int
  updateOrAdd : Option Int
  deriving DecidableEq, Repr

/-- `KeychainManager.addPasswordToKeychains`. The UTF-8 encoding of a string never fails. -/
def KeychainManager.addPasswordToKeychains (device : Device) (manager : KeychainManager)
    (key password : String) (faults : AddFaults) (keychain : Keychain) :
    Except KeychainError Bool × Keychain :=
  let encodedPassword := password.toUTF8
  let basicQuery := manager.basicQuery device key
  match (device.secItemCopyMatching faults.copyMatching basicQuery keychain).1 with
  | .errSecSuccess =>
    match secItemUpdate faults.updateOrAdd basicQuery encodedPassword keychain with
    | (.errSecSuccess, keychain) => (.ok true, keychain)
    | (status, keychain) => (.error (.unhandledError status), keychain)
  | .errSecItemNotFound =>
    match device.secItemAdd faults.updateOrAdd basicQuery key encodedPassword keychain with
    | (.errSecSuccess, keychain) => (.ok true, keychain)
    | (status, keychain) => (.error (.unhandledError status), keychain)
  | status => (.error (.unhandledError status), keychain)

/-- `KeychainManager.findPasswordInKeychains`. -/
def KeychainManager.findPasswordInKeychains (device : Device) (manager : KeychainManager)
    (key : String) (fault : Option Int) (keychain : Keychain) : Except KeychainError (Option String) :=
  match device.secItemCopyMatching fault (manager.basicQuery device key) keychain with
  | (.errSecSuccess, some item) =>
    match String.fromUTF8? item.valueData with
    | some password => .ok (some password)
    | none => .error .dataToStringConversionError
  | (.errSecSuccess, none) => .error .dataToStringConversionError
  | (.errSecItemNotFound, _) => .ok none
  | (status, _) => .error (.unhandledError status)

/-- `KeychainManager.removeAllValues`. -/
def KeychainManager.removeAllValues (device : Device) (manager : KeychainManager) (fault : Option Int)
    (keychain : Keychain) : Except KeychainError Unit × Keychain :=
  match secItemDelete fault (manager.keychainQuery.query device) keychain with
  | (.errSecSuccess, keychain) => (.ok (), keychain)
  | (.errSecItemNotFound, keychain) => (.ok (), keychain)
  | (status, keychain) => (.error (.unhandledError status), keychain)

/-- `KeychainManager.deleteKeychain`, which does not read its key. -/
def KeychainManager.deleteKeychain (device : Device) (manager : KeychainManager) (_key : String)
    (fault : Option Int) (keychain : Keychain) : Except KeychainError Unit × Keychain :=
  let basicQuery := manager.keychainQuery.query device
  match secItemDelete fault basicQuery keychain with
  | (.errSecSuccess, keychain) => (.ok (), keychain)
  | (.errSecItemNotFound, keychain) => (.ok (), keychain)
  | (status, keychain) => (.error (.unhandledError status), keychain)

/-! ## Calls on a manager -/

inductive KeychainCall
  | addPasswordToKeychains (key password : String) (faults : AddFaults)
  | findPasswordInKeychains (key : String) (fault : Option Int)
  | removeAllValues (fault : Option Int)
  deriving DecidableEq, Repr

inductive KeychainResult
  | added (result : Except KeychainError Bool)
  | found (result : Except KeychainError (Option String))
  | removed (result : Except KeychainError Unit)

def KeychainResult.threw : KeychainResult → Bool
  | .added (.error _) | .found (.error _) | .removed (.error _) => true
  | _ => false

def KeychainManager.perform (device : Device) (manager : KeychainManager) (keychainCall : KeychainCall)
    (keychain : Keychain) : KeychainResult × Keychain :=
  match keychainCall with
  | .addPasswordToKeychains key password faults =>
    let (result, keychain) := manager.addPasswordToKeychains device key password faults keychain
    (.added result, keychain)
  | .findPasswordInKeychains key fault =>
    (.found (manager.findPasswordInKeychains device key fault keychain), keychain)
  | .removeAllValues fault =>
    let (result, keychain) := manager.removeAllValues device fault keychain
    (.removed result, keychain)

/-- A call on any manager, or a delete through it. -/
inductive AnyKeychainCall
  | perform (manager : KeychainManager) (keychainCall : KeychainCall)
  | deleteKeychain (manager : KeychainManager) (key : String) (fault : Option Int)
  deriving DecidableEq, Repr

def Device.perform (device : Device) : AnyKeychainCall → Keychain → KeychainResult × Keychain
  | .perform manager keychainCall, keychain => manager.perform device keychainCall keychain
  | .deleteKeychain manager key fault, keychain =>
    let (result, keychain) := manager.deleteKeychain device key fault keychain
    (.removed result, keychain)

end ArtExhibition
