import ArtExhibition.Spec.EndPoint

/-!
# `NetworkManager.callAndParseAPI`

From the response of the router to the decoded model: an error of the router goes through, a
response that is no success gives nil, and so does a body that does not decode. `decode` is
`JSONDecoder.decode`. Of a router's response only what is read is here; that it is logged is
not.
-/

namespace ArtExhibition.Networking

open Wire

structure HTTPURLResponse where
  statusCode : Int
  deriving DecidableEq, Repr

/-- A `URLResponse`, which is one of HTTP or not. -/
inductive URLResponse
  | http (response : HTTPURLResponse)
  | other
  deriving DecidableEq, Repr

/-- `as? HTTPURLResponse`. -/
def URLResponse.asHTTP : URLResponse → Option HTTPURLResponse
  | .http response => some response
  | .other => none

/-- What `Router.request` returns. -/
structure RouterResponse where
  data : Option Bytes
  response : Option URLResponse
  deriving DecidableEq, Repr

inductive NetworkResponse
  | success | authenticationError | badRequest | outdated | failed | noData | unableToDecode
  deriving DecidableEq, Repr

def NetworkResponse.rawValue : NetworkResponse → String
  | .success => "success"
  | .authenticationError => "You need to be authenticated first."
  | .badRequest => "Bad request"
  | .outdated => "The url you requested is outdated."
  | .failed => "Network request failed."
  | .noData => "Response returned with no data to decode."
  | .unableToDecode => "We could not decode the response."

inductive NetworkResult (α : Type)
  | success
  | failure (text : α)
  deriving DecidableEq, Repr

/-- `200...299`. -/
def HTTPURLResponse.IsSuccess (response : HTTPURLResponse) : Prop :=
  200 ≤ response.statusCode ∧ response.statusCode ≤ 299

instance (response : HTTPURLResponse) : Decidable response.IsSuccess := inferInstanceAs (Decidable (_ ∧ _))

def handleNetworkResponse (response : HTTPURLResponse) : NetworkResult String :=
  if response.IsSuccess then .success
  else if 401 ≤ response.statusCode ∧ response.statusCode ≤ 500 then
    .failure NetworkResponse.authenticationError.rawValue
  else if 501 ≤ response.statusCode ∧ response.statusCode ≤ 599 then
    .failure NetworkResponse.badRequest.rawValue
  else if response.statusCode = 600 then .failure NetworkResponse.outdated.rawValue
  else .failure NetworkResponse.failed.rawValue

variable {D : Type}

/-- After the router's response nothing is thrown. -/
def callAndParseAPI (decode : Bytes → Except NSError D) (routerResponse : Except NSError RouterResponse) :
    Except NSError (Option D) :=
  routerResponse.map fun routerResponse =>
    match routerResponse.response.bind URLResponse.asHTTP with
    | none => none
    | some response =>
      match handleNetworkResponse response with
      | .success => routerResponse.data.bind fun data => (decode data).toOption
      | .failure _ => none

/-- `do { return try await … } catch { return nil }`. -/
def nilOnError : Except NSError (Option D) → Option D
  | .ok model => model
  | .error _ => none

end ArtExhibition.Networking
