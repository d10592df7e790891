import ArtExhibition.Spec.Encoding

/-!
# Endpoints and `Router.buildRequest`

An endpoint is the values of the properties that `EndPointType` asks for. `BaseEnpoint` is
the app's; its `baseURL` is computed from a string with a forced unwrap, so it may trap.
`urlOfString` is `URL(string:)`.
-/

namespace ArtExhibition.Networking

inductive HTTPTask
  | request
  | requestParameters (bodyParameters : Option Parameters) (bodyEncoding : ParameterEncoding)
      (urlParameters : Option Parameters)
  | requestParametersAndHeaders (bodyParameters : Option Parameters) (bodyEncoding : ParameterEncoding)
      (urlParameters : Option Parameters) (additionHeaders : Option HTTPHeaders)
  | uploadFile (bodyParameters : Option Parameters) (bodyEncoding : ParameterEncoding)
      (additionHeaders : Option HTTPHeaders) (media : Option Media)
  | downloadFile
  deriving DecidableEq

/-- The values of `EndPointType`. -/
structure EndPoint where
  baseURL : URL
  path : Option String
  httpMethod : HTTPMethod
  task : HTTPTask
  headers : HTTPHeaders
  cachePolicy : CachePolicy
  deriving DecidableEq

/-! ## `Router` -/

def addAdditionalHeaders (additionalHeaders : Option HTTPHeaders) (request : URLRequest) : URLRequest :=
  ((additionalHeaders.map HTTPHeaders.entries).getD []).foldl
    (fun request (key, value) => request.setValue value key) request

def configureParameters (foundation : Foundation) (uuid : UUIDString) (path : Option String)
    (bodyParameters : Option Parameters) (bodyEncoding : ParameterEncoding)
    (urlParameters : Option Parameters) (request : URLRequest) : Except Failure URLRequest :=
  catching .configuringParametersFailed <|
    bodyEncoding.encode foundation uuid request bodyParameters urlParameters path none

def configureParametersWithMeida (foundation : Foundation) (uuid : UUIDString) (path : Option String)
    (bodyParameters : Option Parameters) (bodyEncoding : ParameterEncoding) (media : Option (List Media))
    (request : URLRequest) : Except Failure URLRequest :=
  catching .configuringParametersFailed <|
    bodyEncoding.encode foundation uuid request bodyParameters none path media

/-- `Router.buildRequest`. -/
def buildRequest (foundation : Foundation) (uuid : UUIDString) (route : EndPoint) :
    Except Failure URLRequest :=
  let request := { URLRequest.ofURL route.baseURL with httpMethod := route.httpMethod.rawValue }
  catching .buildingRequestUrlFailed <|
    match route.task with
    | .request => .ok (request.setValue "application/json" contentType)
    | .requestParameters bodyParameters bodyEncoding urlParameters =>
      configureParameters foundation uuid route.path bodyParameters bodyEncoding urlParameters request
    | .requestParametersAndHeaders bodyParameters bodyEncoding urlParameters additionalHeaders =>
      configureParameters foundation uuid route.path bodyParameters bodyEncoding urlParameters
        (addAdditionalHeaders additionalHeaders request)
    | .uploadFile bodyParameters bodyEncoding additionHeaders media =>
      match media with
      | none => .error (.threw .parametersNil)
      | some media =>
        configureParametersWithMeida foundation uuid route.path bodyParameters bodyEncoding (some [media])
          (addAdditionalHeaders additionHeaders request)
    | .downloadFile => .ok request

/-! ## `BaseEnpoint` -/

def BASE_URL_MUSEUM : String := "https://api.harvardartmuseums.org"
def OBJECT_PATH_MUSEUM : String := "/object"
def AUDIO_PATH_MUSEUM : String := "/audio"
def PERSON_PATH_MUSEUM : String := "/person"
def OBJECT_FULL_IMAGE : String := "/full/full/0/default.jpg"

inductive BaseEnpoint
  | getExihibitionFromHardvardMuseum (parameters : Parameters)
  | getDetailedInformationOfObject (path : String) (parameters : Parameters)
  | downloadFullImageObject (baseURL : String)
  | downloadAudioObject (path : String) (parameters : Parameters)
  | getPeronalInformation (path : String) (parameters : Parameters)
  | getObjectAccordingToPerson (parameters : Parameters)
  | downloadPortraitImage (baseURL : String)
  deriving DecidableEq

/-- The string of the base URL. -/
def BaseEnpoint.baseURLString : BaseEnpoint → String
  | .downloadFullImageObject baseURL | .downloadPortraitImage baseURL => baseURL
  | .getExihibitionFromHardvardMuseum _ | .getDetailedInformationOfObject _ _ | .downloadAudioObject _ _
  | .getPeronalInformation _ _ | .getObjectAccordingToPerson _ => BASE_URL_MUSEUM

/-- `baseURL`, with its forced unwrap. -/
def BaseEnpoint.baseURL (urlOfString : String → Option URL) (endpoint : BaseEnpoint) : Except Failure URL :=
  match urlOfString endpoint.baseURLString with
  | some url => .ok url
  | none => .error (.trapped .forcedUnwrap)

def BaseEnpoint.path : BaseEnpoint → Option String
  | .getExihibitionFromHardvardMuseum _ => some OBJECT_PATH_MUSEUM
  | .getDetailedInformationOfObject path _ => some (OBJECT_PATH_MUSEUM ++ "/" ++ path)
  | .downloadFullImageObject _ => none
  | .downloadAudioObject path _ => some (AUDIO_PATH_MUSEUM ++ "/" ++ path)
  | .getPeronalInformation path _ => some (PERSON_PATH_MUSEUM ++ "/" ++ path)
  | .getObjectAccordingToPerson _ => some OBJECT_PATH_MUSEUM
  | .downloadPortraitImage _ => none

def BaseEnpoint.task : BaseEnpoint → HTTPTask
  | .getExihibitionFromHardvardMuseum parameters =>
    .requestParameters none .urlAndJsonEncoding (some parameters)
  | .getDetailedInformationOfObject _ parameters | .downloadAudioObject _ parameters
  | .getPeronalInformation _ parameters | .getObjectAccordingToPerson parameters =>
    .requestParameters none .urlEncoding (some parameters)
  | .downloadFullImageObject _ | .downloadPortraitImage _ => .downloadFile

/-- A `BaseEnpoint` as an endpoint, with its base URL. -/
def BaseEnpoint.endPoint (endpoint : BaseEnpoint) (baseURL : URL) : EndPoint where
  baseURL := baseURL
  path := endpoint.path
  httpMethod := .get
  task := endpoint.task
  headers := ⟨[], List.nodup_nil⟩
  cachePolicy := .useProtocolCachePolicy

/-- `buildRequest` of a `BaseEnpoint`, whose base URL is read first. -/
def BaseEnpoint.buildRequest (urlOfString : String → Option URL) (foundation : Foundation) (uuid : UUIDString)
    (endpoint : BaseEnpoint) : Except Failure URLRequest := do
  let baseURL ← endpoint.baseURL urlOfString
  Networking.buildRequest foundation uuid (endpoint.endPoint baseURL)

/-- The URL of `BASE_URL_MUSEUM`. -/
def museumURL : URL := ⟨⟨some "https", some "api.harvardartmuseums.org", "", none, none⟩, by decide, true⟩

/-- The endpoint of `DetailedNewsViewModel.streamDownloadImage`. -/
def streamDownloadImage (imageID : String) : BaseEnpoint :=
  .downloadFullImageObject (imageID ++ OBJECT_FULL_IMAGE)

end ArtExhibition.Networking
