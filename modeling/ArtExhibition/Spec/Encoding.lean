import ArtExhibition.Spec.Callbacks
import ArtExhibition.Spec.Request

/-!
# The parameter encoders

`URLParameterEncoder`, `JSONParameterEncoder` with its multipart encoding, and
`ParameterEncoding`, which picks one. An encoder returns the request it leaves, throws a
`NetworkError`, or traps. A `catch` catches what is thrown; a trap goes through it.

`JSONSerialization` gives data for a dictionary of JSON values (or an error of its own), and
raises an Objective-C exception for any other. The UUID in a boundary is the encoder's
argument.
-/

namespace ArtExhibition.Networking

open Wire

inductive NetworkError
  | parametersNil | encodingFailed | missingURL | buildingRequestUrlFailed | configuringParametersFailed
  deriving DecidableEq, Repr

def NetworkError.rawValue : NetworkError → String
  | .parametersNil => "Parameters were nil."
  | .encodingFailed => "Parameter encoding failed."
  | .missingURL => "URL is nil."
  | .buildingRequestUrlFailed => "RequestURL is fail to build"
  | .configuringParametersFailed => "Parameters are fail to configure"

/-- What ends the process. -/
inductive Crash
  | forcedUnwrap | forcedCast | uncaughtException
  deriving DecidableEq, Repr

inductive Failure
  | threw (error : NetworkError)
  | trapped (crash : Crash)
  deriving DecidableEq, Repr

/-- `do { … } catch { throw error }`. -/
def catching {α : Type} (error : NetworkError) : Except Failure α → Except Failure α
  | .ok result => .ok result
  | .error (.threw _) => .error (.threw error)
  | .error (.trapped crash) => .error (.trapped crash)

/-- `NSUUID().uuidString`. -/
structure UUIDString where
  value : String
  valid : ∀ c ∈ value.toList, c.isAlphanum = true ∨ c = '-'

/-- What the encoders use of Foundation. -/
structure Foundation where
  allowed : AllowedCharacters
  /-- `JSONSerialization.data(withJSONObject:options:)`, of JSON values -/
  jsonData : Parameters → Except NSError Bytes

def contentType : String := "Content-Type"

/-- `if urlRequest.value(forHTTPHeaderField: "Content-Type") == nil { … }`. -/
def URLRequest.setContentTypeIfNil (request : URLRequest) (value : String) : URLRequest :=
  if request.value contentType = none then request.setValue value contentType else request

/-! ## `URLParameterEncoder` -/

/-- The item of a parameter. -/
def queryItem (entry : String × ParameterValue) : URLQueryItem :=
  (entry.1, some (addingPercentEncoding urlFragmentAllowed entry.2.description))

/-- The components with the query of the parameters. -/
def URLComponents.setParameters (allowed : AllowedCharacters) (components : URLComponents)
    (parameters : Parameters) : URLComponents :=
  parameters.entries.foldl (fun components entry => components.appendQueryItem allowed (queryItem entry))
    (components.setQueryItems allowed [])

/-- `URLParameterEncoder.encode`. -/
def urlParameterEncode (foundation : Foundation) (request : URLRequest) (parameters : Option Parameters)
    (path : Option String) : Except Failure URLRequest :=
  match request.url with
  | none => .error (.threw .missingURL)
  | some url =>
    let request :=
      match URLComponents.ofURL url with
      | some components =>
        let components :=
          match path with
          | some path => components.setPath foundation.allowed path
          | none => components
        let components :=
          match parameters with
          | some parameters => components.setParameters foundation.allowed parameters
          | none => components
        { request with url := components.url }
      | none => request
    .ok (request.setContentTypeIfNil "application/x-www-form-urlencoded; charset=utf-8")

/-! ## `JSONParameterEncoder` -/

/-- `JSONSerialization.data(withJSONObject:options:)`, for any dictionary. -/
def Foundation.data (foundation : Foundation) (parameters : Parameters) : Except Failure Bytes :=
  if parameters.entries.all fun entry => entry.2.isJSON then
    match foundation.jsonData parameters with
    | .ok data => .ok data
    | .error _ => .error (.threw .encodingFailed)
  else .error (.trapped .uncaughtException)

/-- `JSONParameterEncoder.encode(urlRequest:with:and:)`; the path is not used. -/
def jsonParameterEncode (foundation : Foundation) (request : URLRequest) (parameters : Option Parameters)
    (_path : Option String) : Except Failure URLRequest :=
  match parameters with
  | none => .ok request
  | some parameters => do
    let jsonAsData ← foundation.data parameters
    return { request with httpBody := some (.json jsonAsData) }.setContentTypeIfNil "application/json"

def lineBreak : String := "\r\n"

def boundaryOf (uuid : UUIDString) : String := "Boundary-" ++ uuid.value

/-- The piece of a parameter in a multipart body; its value is cast to a string. -/
def parameterPart (boundary : String) (entry : String × ParameterValue) : Except Failure Bytes :=
  match entry.2.asString with
  | some value => .ok <|
    utf8 ("--" ++ (boundary ++ lineBreak)) ++
    utf8 ("Content-Disposition: form-data; name=\"" ++ entry.1 ++ "\"" ++ (lineBreak ++ lineBreak)) ++
    utf8 (value ++ lineBreak)
  | none => .error (.trapped .forcedCast)

/-- The piece of a media item. -/
def mediaPart (boundary : String) (photo : Media) : Bytes :=
  utf8 ("--" ++ (boundary ++ lineBreak)) ++
  utf8 ("Content-Disposition: form-data; name=\"" ++ photo.key ++ "\"; filename=\"" ++ photo.filename ++ "\"" ++
    lineBreak) ++
  utf8 ("Content-Type: " ++ (photo.mimeType ++ lineBreak ++ lineBreak)) ++
  photo.data ++
  utf8 lineBreak

/-- The body that the multipart encoder writes. -/
def multipartBody (boundary : String) (parameters : Option Parameters) (media : Option (List Media)) :
    Except Failure Bytes := do
  let parameterParts ← ((parameters.map Parameters.entries).getD []).mapM (parameterPart boundary)
  return parameterParts.flatten ++ (media.getD []).flatMap (mediaPart boundary) ++
    utf8 ("--" ++ boundary ++ "--" ++ lineBreak)

/-- `JSONParameterEncoder.encode(urlRequest:with:path:media:)`. -/
def multipartEncode (foundation : Foundation) (uuid : UUIDString) (request : URLRequest)
    (parameters : Option Parameters) (path : Option String) (media : Option (List Media)) :
    Except Failure URLRequest :=
  match request.url with
  | none => .error (.threw .missingURL)
  | some url => do
    let request :=
      match URLComponents.ofURL url, path with
      | some components, some path => { request with url := (components.setPath foundation.allowed path).url }
      | _, _ => request
    let boundary := boundaryOf uuid
    let body ← multipartBody boundary parameters media
    return { request with httpBody := some (.multipart boundary body) }.setContentTypeIfNil
      ("multipart/form-data; boundary=" ++ boundary)

/-! ## `ParameterEncoding` -/

inductive ParameterEncoding
  | urlEncoding | jsonEncoding | urlAndJsonEncoding | jsonEncodingWithMultipartdata
  deriving DecidableEq, Repr

/-- `ParameterEncoding.encode`. -/
def ParameterEncoding.encode (encoding : ParameterEncoding) (foundation : Foundation) (uuid : UUIDString)
    (request : URLRequest) (bodyParameters urlParameters : Option Parameters) (path : Option String)
    (media : Option (List Media)) : Except Failure URLRequest :=
  catching .encodingFailed <|
    match encoding with
    | .urlEncoding => urlParameterEncode foundation request urlParameters path
    | .jsonEncoding => jsonParameterEncode foundation request bodyParameters path
    | .urlAndJsonEncoding => do
      let request ← urlParameterEncode foundation request urlParameters path
      jsonParameterEncode foundation request bodyParameters path
    | .jsonEncodingWithMultipartdata => multipartEncode foundation uuid request bodyParameters path media

/-! ## An instance -/

/-- The character sets of RFC 3986, and the JSON of the empty dictionary. -/
def rfcFoundation : Foundation where
  allowed :=
    { path := ⟨fun c => c.isAlphanum || "-._~!$&'()*+,;=:@/".toList.contains c, by decide⟩
      slash := by decide
      queryItem := ⟨⟨fun c => c.isAlphanum || "-._~!$'()*+,;:@/?".toList.contains c, by decide⟩,
        by decide, by decide⟩ }
  jsonData parameters := if parameters.entries = [] then .ok (utf8 "\x7b\n\n\x7d") else .error ⟨3852⟩

def someUUID : UUIDString := ⟨"E621E1F8-C36C-495A-93FC-0C247A3E6E5F", forall_of_all (by decide)⟩

end ArtExhibition.Networking
