import ArtExhibition.Wire.PercentEncoding

/-!
# URLs, parameters and requests

What the networking code uses of Foundation. A `URL` here has no base URL of its own; its
components always compose. `URLComponents` has a URL when its path fits its authority (the
user, password, host and port), and reads only URLs that conform to RFC 3986. The characters
that its setters leave alone are Foundation's (`AllowedCharacters`).

A dictionary is its entries in iteration order, with different keys. Names of header fields
are compared without regard to case.
-/

namespace ArtExhibition.Networking

open Wire

/-! ## URLs -/

structure URLComponents where
  scheme : Option String
  authority : Option String
  percentEncodedPath : String
  percentEncodedQuery : Option String
  percentEncodedFragment : Option String
  deriving DecidableEq, Repr

/-- After an authority a path is empty or starts with `/`; without one it does not start
with `//`. -/
def URLComponents.Composes (components : URLComponents) : Prop :=
  if components.authority.isSome then
    components.percentEncodedPath = "" ∨ ['/'] <+: components.percentEncodedPath.toList
  else ¬ ['/', '/'] <+: components.percentEncodedPath.toList

instance (components : URLComponents) : Decidable components.Composes := by
  unfold URLComponents.Composes
  infer_instance

structure URL where
  components : URLComponents
  composes : components.Composes
  /-- it conforms to RFC 3986 -/
  conforms : Bool
  deriving DecidableEq

/-- `URLComponents(url:resolvingAgainstBaseURL:)`. -/
def URLComponents.ofURL (url : URL) : Option URLComponents :=
  if url.conforms then some url.components else none

/-- `URLComponents.url`. -/
def URLComponents.url (components : URLComponents) : Option URL :=
  if h : components.Composes then some ⟨components, h, true⟩ else none

/-- The characters that the setters of `URLComponents` do not percent-encode. -/
structure AllowedCharacters where
  path : CharacterSet
  slash : path.allowed '/' = true
  queryItem : QuerySet

/-- Set `urlFragmentAllowed`. -/
def urlFragmentAllowed : CharacterSet where
  allowed c := c.isAlphanum || "-._~!$&'()*+,;=:@/?".toList.contains c
  percent := by decide

/-- `path`, the decoded path. -/
def URLComponents.path (components : URLComponents) : String :=
  (removingPercentEncoding components.percentEncodedPath).getD ""

def URL.path (url : URL) : String := url.components.path

def URLComponents.setPath (allowed : AllowedCharacters) (components : URLComponents) (path : String) :
    URLComponents :=
  { components with percentEncodedPath := addingPercentEncoding allowed.path path }

/-- A name and a value. -/
abbrev URLQueryItem := QueryField

def URLComponents.queryItems (components : URLComponents) : Option (List URLQueryItem) :=
  components.percentEncodedQuery.map fun query =>
    (parseQuery query.toList).map fun (name, value) => ((text? name).getD "", value.bind text?)

def URLComponents.setQueryItems (allowed : AllowedCharacters) (components : URLComponents)
    (items : List URLQueryItem) : URLComponents :=
  { components with percentEncodedQuery := some (String.ofList (printQuery allowed.queryItem items)) }

/-- `urlComponents.queryItems?.append(item)`. -/
def URLComponents.appendQueryItem (allowed : AllowedCharacters) (components : URLComponents)
    (item : URLQueryItem) : URLComponents :=
  match components.queryItems with
  | some items => components.setQueryItems allowed (items ++ [item])
  | none => components

/-! ## Parameters -/

/-- A value of type `Any`: a string, or another value with its description, and whether
`JSONSerialization` takes it. -/
inductive ParameterValue
  | string (value : String)
  | other (description : String) (isJSON : Bool)
  deriving DecidableEq, Repr

/-- The interpolation of a value in a string. -/
def ParameterValue.description : ParameterValue → String
  | .string value => value
  | .other description _ => description

def ParameterValue.isJSON : ParameterValue → Bool
  | .string _ => true
  | .other _ isJSON => isJSON

/-- `as? String`. -/
def ParameterValue.asString : ParameterValue → Option String
  | .string value => some value
  | .other _ _ => none

/-- `[String: Any]`. -/
structure Parameters where
  entries : List (String × ParameterValue)
  nodup : (entries.map Prod.fst).Nodup
  deriving DecidableEq

/-- `[String: String]`. -/
structure HTTPHeaders where
  entries : List (String × String)
  nodup : (entries.map Prod.fst).Nodup
  deriving DecidableEq

structure Media where
  key : String
  filename : String
  data : Bytes
  mimeType : String
  deriving DecidableEq, Repr

/-! ## Requests -/

inductive HTTPMethod
  | get | post | put | patch | delete
  deriving DecidableEq, Repr

def HTTPMethod.rawValue : HTTPMethod → String
  | .get => "GET"
  | .post => "POST"
  | .put => "PUT"
  | .patch => "PATCH"
  | .delete => "DELETE"

/-- `URLRequest.CachePolicy`. -/
inductive CachePolicy
  | useProtocolCachePolicy | reloadIgnoringLocalCacheData | reloadIgnoringLocalAndRemoteCacheData
  | returnCacheDataElseLoad | returnCacheDataDontLoad | reloadRevalidatingCacheData
  deriving DecidableEq, Repr

/-- A body, by the encoder that wrote it. -/
inductive HTTPBody
  | json (data : Bytes)
  | multipart (boundary : String) (data : Bytes)
  deriving DecidableEq, Repr

structure URLRequest where
  url : Option URL
  httpMethod : String
  headerFields : List (String × String)
  httpBody : Option HTTPBody
  cachePolicy : CachePolicy
  deriving DecidableEq

/-- `URLRequest(url:)`. -/
def URLRequest.ofURL (url : URL) : URLRequest := ⟨some url, "GET", [], none, .useProtocolCachePolicy⟩

/-- Two names of one header field. -/
def SameField (a b : String) : Prop := a.toList.map Char.toLower = b.toList.map Char.toLower

instance (a b : String) : Decidable (SameField a b) := inferInstanceAs (Decidable (_ = _))

/-- `value(forHTTPHeaderField:)`. -/
def URLRequest.value (request : URLRequest) (field : String) : Option String :=
  (request.headerFields.find? fun header => decide (SameField header.1 field)).map Prod.snd

/-- `setValue(_:forHTTPHeaderField:)`. -/
def URLRequest.setValue (request : URLRequest) (value field : String) : URLRequest :=
  { request with
    headerFields := (request.headerFields.filter fun header => decide (¬ SameField header.1 field)) ++
      [(field, value)] }

end ArtExhibition.Networking
