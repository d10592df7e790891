import ArtExhibition.Machine.Results
import ArtExhibition.Proof.URLParameters

/-!
# What a built request carries

`buildRequest_ok` says what `Router.buildRequest` leaves in a request: its method, its path,
the values of its header fields and its body, by task and encoding. From it `carries_iff`: the
request carries what the endpoint declares exactly when the endpoint declares nothing that the
router does not read (`EndPoint.Carried`). The router reads neither `headers` nor `cachePolicy`,
the JSON encoder does not read the path, and `URLComponents.url` may be nil.
-/

namespace ArtExhibition.Networking

open Machine Wire

variable {foundation : Foundation} {uuid : UUIDString}

/-! ## Header fields -/

theorem value_congr (request : URLRequest) {a b : String} (h : SameField a b) :
    request.value a = request.value b := by
  have hsame : ∀ name, SameField name a ↔ SameField name b := by
    intro name
    exact ⟨fun ha => Eq.trans ha h, fun hb => Eq.trans hb (Eq.symm h)⟩
  simp only [URLRequest.value, hsame]

/-- The value of a field after another was set. -/
theorem value_setValue (request : URLRequest) (value field field' : String) :
    (request.setValue value field).value field' =
      if SameField field field' then some value else request.value field' := by
  unfold URLRequest.value URLRequest.setValue
  dsimp only
  rw [List.find?_append, List.find?_filter, List.find?_cons, List.find?_nil]
  by_cases h : SameField field field'
  · have hnone : request.headerFields.find? (fun header =>
        decide (decide (¬ SameField header.1 field) = true ∧
          decide (SameField header.1 field') = true)) = none := by
      rw [List.find?_eq_none]
      intro header _
      have hdiffer : SameField header.1 field' → SameField header.1 field := fun h' => Eq.trans h' (Eq.symm h)
      simpa using fun hne h' => hne (hdiffer h')
    rw [if_pos h, hnone, decide_eq_true h]
    rfl
  · have hsame : ∀ header : String × String,
        decide (decide (¬ SameField header.1 field) = true ∧
          decide (SameField header.1 field') = true) =
          decide (SameField header.1 field') := by
      intro header
      have hdiffer : SameField header.1 field' → ¬ SameField header.1 field :=
        fun h' hf => h (Eq.trans (Eq.symm hf) h')
      simpa using hdiffer
    simp only [hsame, if_neg h, decide_eq_false h, Option.or_none]

theorem value_setContentTypeIfNil (request : URLRequest) (value field : String) :
    (request.setContentTypeIfNil value).value field =
      (request.value field).or (if SameField contentType field then some value else none) := by
  unfold URLRequest.setContentTypeIfNil
  by_cases hfield : SameField contentType field
  · rw [if_pos hfield, ← value_congr request hfield, ← value_congr _ hfield]
    cases h : request.value contentType with
    | none =>
      rw [if_pos rfl, value_setValue]
      exact if_pos rfl
    | some given => rw [if_neg (by simp), h, Option.some_or]
  · rw [if_neg hfield, Option.or_none]
    split
    · rw [value_setValue, if_neg hfield]
    · rfl

/-- The last value given to a field. -/
def lastValue (headers : List (String × String)) (field : String) : Option String :=
  (headers.reverse.find? fun header => decide (SameField header.1 field)).map Prod.snd

theorem lastValue_cons (header : String × String) (headers : List (String × String)) (field : String) :
    lastValue (header :: headers) field =
      (lastValue headers field).or (if SameField header.1 field then some header.2 else none) := by
  unfold lastValue
  rw [List.reverse_cons, List.find?_append, Option.map_or, List.find?_cons, List.find?_nil]
  by_cases h : SameField header.1 field
  · rw [decide_eq_true h, if_pos h]
    rfl
  · rw [decide_eq_false h, if_neg h]
    rfl

theorem lastValue_eq_none_iff (headers : List (String × String)) (field : String) :
    lastValue headers field = none ↔ ∀ header ∈ headers, ¬ SameField header.1 field := by
  simp [lastValue]

/-- **Additional headers**: a field has the last value given to it, else the one it had. -/
theorem value_addAdditionalHeaders (headers : Option HTTPHeaders) (request : URLRequest) (field : String) :
    (addAdditionalHeaders headers request).value field =
      (lastValue ((headers.map HTTPHeaders.entries).getD []) field).or (request.value field) := by
  unfold addAdditionalHeaders
  generalize (headers.map HTTPHeaders.entries).getD [] = entries
  induction entries generalizing request with
  | nil => rfl
  | cons header entries ih =>
    rw [List.foldl_cons, ih, lastValue_cons, value_setValue, Option.or_assoc]
    by_cases h : SameField header.1 field
    · rw [if_pos h, if_pos h, Option.some_or]
    · rw [if_neg h, if_neg h, Option.none_or]

/-- Additional headers change header fields alone. -/
theorem addAdditionalHeaders_eq (headers : Option HTTPHeaders) (request : URLRequest) :
    ∃ fields, addAdditionalHeaders headers request = { request with headerFields := fields } := by
  unfold addAdditionalHeaders
  generalize (headers.map HTTPHeaders.entries).getD [] = entries
  induction entries generalizing request with
  | nil => exact ⟨request.headerFields, rfl⟩
  | cons header entries ih =>
    obtain ⟨fields, h⟩ := ih (request.setValue header.2 header.1)
    exact ⟨fields, h⟩

/-! ## The encoders -/

theorem catching_eq_ok {α : Type} {error : NetworkError} {x : Except Failure α} {result : α}
    (h : catching error x = .ok result) : x = .ok result := by
  rcases x with (_ | _) | _
  · cases h
  · cases h
  · exact h

/-- The path of the URL that an encoder leaves when it applies a path. -/
def URL.appliedPath (url : URL) (path : Option String) : Option String :=
  if url.conforms then path.elim (some url.path) fun p => if url.components.Fits p then some p else none
  else some url.path

theorem path_encodedURL (url : URL) (parameters : Option Parameters) (path : Option String) :
    (encodedURL foundation url parameters path).map URL.path = url.appliedPath path := by
  unfold encodedURL URL.appliedPath
  by_cases hconforms : url.conforms
  · rw [if_pos hconforms, if_pos hconforms]
    have hfits := composes_encoded foundation.allowed url parameters path
    have hpath := path_encoded foundation.allowed url.components parameters path
    cases path with
    | none =>
      rw [url_of_composes (hfits.2 (by simp))]
      exact congrArg some hpath
    | some p =>
      rw [Option.elim_some]
      by_cases hp : url.components.Fits p
      · rw [if_pos hp, url_of_composes (hfits.2 (by simpa using hp))]
        exact congrArg some hpath
      · rw [if_neg hp, url_of_not_composes fun h => hp (hfits.1 h p rfl)]
        rfl
  · rw [if_neg hconforms, if_neg hconforms, Option.map_some]

theorem jsonParameterEncode_ok {request request' : URLRequest} {parameters : Option Parameters}
    {path : Option String} (h : jsonParameterEncode foundation request parameters path = .ok request') :
    (parameters = none ∧ request' = request) ∨
      ∃ p data, parameters = some p ∧ foundation.data p = .ok data ∧
        request' = { request with httpBody := some (.json data) }.setContentTypeIfNil "application/json" := by
  unfold jsonParameterEncode at h
  cases parameters with
  | none => exact .inl ⟨rfl, (Except.ok.inj h).symm⟩
  | some p =>
    obtain ⟨data, hdata, hrequest⟩ := bind_eq_ok h
    exact .inr ⟨p, data, rfl, hdata, (Except.ok.inj hrequest).symm⟩

theorem multipartEncode_ok {request request' : URLRequest} {url : URL} (hurl : request.url = some url)
    {parameters : Option Parameters} {path : Option String} {media : Option (List Media)}
    (h : multipartEncode foundation uuid request parameters path media = .ok request') :
    ∃ body, multipartBody (boundaryOf uuid) parameters media = .ok body ∧
      request' = { request with
        url := encodedURL foundation url none path
        httpBody := some (.multipart (boundaryOf uuid) body) }.setContentTypeIfNil
          ("multipart/form-data; boundary=" ++ boundaryOf uuid) := by
  unfold multipartEncode at h
  rw [hurl] at h
  obtain ⟨body, hbody, hrequest⟩ := bind_eq_ok h
  refine ⟨body, hbody, (Except.ok.inj hrequest).symm.trans ?_⟩
  unfold encodedURL URLComponents.ofURL URLComponents.encoded URLComponents.applying
  by_cases hconforms : url.conforms
  · rw [if_pos hconforms, if_pos hconforms]
    cases path with
    | none =>
      have hsame : url.components.url = some url := by
        rw [url_of_composes url.composes, ← hconforms]
      rw [hurl, ← hsame]
      rfl
    | some p => rfl
  · rw [if_neg hconforms, if_neg hconforms, ← hurl]

/-- What the encoding writes in an empty Content-Type. -/
def ParameterEncoding.writtenType (encoding : ParameterEncoding) (uuid : UUIDString)
    (bodyParameters : Option Parameters) : Option String :=
  match encoding with
  | .urlEncoding | .urlAndJsonEncoding => some "application/x-www-form-urlencoded; charset=utf-8"
  | .jsonEncoding => bodyParameters.map fun _ => "application/json"
  | .jsonEncodingWithMultipartdata => some ("multipart/form-data; boundary=" ++ boundaryOf uuid)

/-- The JSON encoder alone does not read the path. -/
def ParameterEncoding.appliesPath : ParameterEncoding → Bool
  | .jsonEncoding => false
  | .urlEncoding | .urlAndJsonEncoding | .jsonEncodingWithMultipartdata => true

/-- The body that the encoding writes, if it writes one. -/
def ParameterEncoding.Writes (encoding : ParameterEncoding) (foundation : Foundation) (uuid : UUIDString)
    (bodyParameters : Option Parameters) (media : Option (List Media)) (body : Option HTTPBody) : Prop :=
  match encoding, bodyParameters with
  | .urlEncoding, _ | .jsonEncoding, none | .urlAndJsonEncoding, none => body = none
  | .jsonEncoding, some parameters | .urlAndJsonEncoding, some parameters =>
    ∃ data, foundation.data parameters = .ok data ∧ body = some (.json data)
  | .jsonEncodingWithMultipartdata, _ =>
    ∃ data, multipartBody (boundaryOf uuid) bodyParameters media = .ok data ∧
      body = some (.multipart (boundaryOf uuid) data)

/-- A request as an encoding leaves it, from one with this URL and these header fields. -/
structure Encoded (foundation : Foundation) (uuid : UUIDString) (encoding : ParameterEncoding)
    (bodyParameters : Option Parameters) (path : Option String) (media : Option (List Media)) (url : URL)
    (request request' : URLRequest) : Prop where
  httpMethod : request'.httpMethod = request.httpMethod
  cachePolicy : request'.cachePolicy = request.cachePolicy
  path : request'.url.map URL.path = if encoding.appliesPath then url.appliedPath path else some url.path
  value : ∀ field, request'.value field =
    (request.value field).or
      (if SameField contentType field then encoding.writtenType uuid bodyParameters else none)
  httpBody : encoding.Writes foundation uuid bodyParameters media request'.httpBody

/-- An encoder leaves a request with these header fields, and a Content-Type follows. -/
theorem encoded_of_set {encoding : ParameterEncoding} {bodyParameters : Option Parameters}
    {path : Option String}
    {media : Option (List Media)} {url : URL} {request request₁ : URLRequest} {value : String}
    (hmethod : request₁.httpMethod = request.httpMethod) (hcache : request₁.cachePolicy = request.cachePolicy)
    (hpath : request₁.url.map URL.path = if encoding.appliesPath then url.appliedPath path else some url.path)
    (hvalue : ∀ field, (request₁.value field).or (if SameField contentType field then some value else none) =
      (request.value field).or
        (if SameField contentType field then encoding.writtenType uuid bodyParameters else none))
    (hbody : encoding.Writes foundation uuid bodyParameters media request₁.httpBody) :
    Encoded foundation uuid encoding bodyParameters path media url request
      (request₁.setContentTypeIfNil value) := by
  have hset := value_setContentTypeIfNil request₁ value
  obtain ⟨fields, hfields⟩ := setContentTypeIfNil_eq request₁ value
  rw [hfields] at hset ⊢
  exact ⟨hmethod, hcache, hpath, fun field => (hset field).trans (hvalue field), hbody⟩

theorem urlParameterEncode_ok {request request' : URLRequest} {url : URL} (hurl : request.url = some url)
    (hbody : request.httpBody = none) {urlParameters : Option Parameters} {path : Option String}
    (h : urlParameterEncode foundation request urlParameters path = .ok request')
    (bodyParameters : Option Parameters) (media : Option (List Media)) :
    Encoded foundation uuid .urlEncoding bodyParameters path media url request request' := by
  rw [urlParameterEncode_eq foundation hurl urlParameters path, Except.ok.injEq] at h
  rw [← h]
  exact encoded_of_set rfl rfl (path_encodedURL url urlParameters path) (fun _ => rfl) hbody

/-- **What an encoding leaves** of a request without a body. -/
theorem encode_ok {encoding : ParameterEncoding} {request request' : URLRequest} {url : URL}
    (hurl : request.url = some url) (hbody : request.httpBody = none)
    {bodyParameters urlParameters : Option Parameters} {path : Option String} {media : Option (List Media)}
    (h : encoding.encode foundation uuid request bodyParameters urlParameters path media = .ok request') :
    Encoded foundation uuid encoding bodyParameters path media url request request' := by
  have hok := catching_eq_ok h
  have hplain : request.url.map URL.path = some url.path := by rw [hurl, Option.map_some]
  cases encoding with
  | urlEncoding => exact urlParameterEncode_ok hurl hbody hok bodyParameters media
  | jsonEncoding =>
    rcases jsonParameterEncode_ok hok with ⟨rfl, rfl⟩ | ⟨p, data, rfl, hdata, rfl⟩
    · refine ⟨rfl, rfl, hplain, fun field => ?_, hbody⟩
      simp [ParameterEncoding.writtenType]
    · exact encoded_of_set rfl rfl hplain (fun _ => rfl) ⟨data, hdata, rfl⟩
  | urlAndJsonEncoding =>
    obtain ⟨request₁, hrequest₁, hjson⟩ := bind_eq_ok hok
    have hencoded : Encoded foundation uuid .urlEncoding bodyParameters path media url request request₁ :=
      urlParameterEncode_ok hurl hbody hrequest₁ bodyParameters media
    rcases jsonParameterEncode_ok hjson with ⟨rfl, rfl⟩ | ⟨p, data, rfl, hdata, rfl⟩
    · exact ⟨hencoded.httpMethod, hencoded.cachePolicy, hencoded.path, hencoded.value, hencoded.httpBody⟩
    · refine encoded_of_set hencoded.httpMethod hencoded.cachePolicy hencoded.path
        (fun field => ?_) ⟨data, hdata, rfl⟩
      -- the URL encoder has set the Content-Type when the JSON encoder looks for it
      have hvalue := hencoded.value field
      change (request₁.value field).or _ = _
      rw [hvalue, Option.or_assoc]
      by_cases hfield : SameField contentType field
      · simp [if_pos hfield, ParameterEncoding.writtenType]
      · simp [if_neg hfield]
  | jsonEncodingWithMultipartdata =>
    obtain ⟨body, hwritten, rfl⟩ := multipartEncode_ok hurl hok
    exact encoded_of_set rfl rfl (path_encodedURL url none path) (fun _ => rfl) ⟨body, hwritten, rfl⟩

/-! ## The router -/

/-- The additional headers of the task. -/
def HTTPTask.additionalHeaders : HTTPTask → List (String × String)
  | .requestParametersAndHeaders _ _ _ headers | .uploadFile _ _ headers _ =>
    (headers.map HTTPHeaders.entries).getD []
  | .request | .requestParameters _ _ _ | .downloadFile => []

/-- What building the request writes in an empty Content-Type. -/
def HTTPTask.writtenType (uuid : UUIDString) : HTTPTask → Option String
  | .request => some "application/json"
  | .requestParameters bodyParameters encoding _ | .requestParametersAndHeaders bodyParameters encoding _ _
  | .uploadFile bodyParameters encoding _ _ => encoding.writtenType uuid bodyParameters
  | .downloadFile => none

def HTTPTask.appliesPath : HTTPTask → Bool
  | .requestParameters _ encoding _ | .requestParametersAndHeaders _ encoding _ _ | .uploadFile _ encoding _ _ =>
    encoding.appliesPath
  | .request | .downloadFile => false

/-- The body that building the request writes, if it writes one. -/
def HTTPTask.Writes (foundation : Foundation) (uuid : UUIDString) (task : HTTPTask) (body : Option HTTPBody) :
    Prop :=
  match task with
  | .request | .downloadFile => body = none
  | .requestParameters bodyParameters encoding _ | .requestParametersAndHeaders bodyParameters encoding _ _ =>
    encoding.Writes foundation uuid bodyParameters none body
  | .uploadFile bodyParameters encoding _ media =>
    encoding.Writes foundation uuid bodyParameters (media.map fun media => [media]) body

/-- A request as the router builds it. -/
structure Built (foundation : Foundation) (uuid : UUIDString) (route : EndPoint)
    (request : URLRequest) : Prop where
  httpMethod : request.httpMethod = route.httpMethod.rawValue
  cachePolicy : request.cachePolicy = .useProtocolCachePolicy
  path : request.url.map URL.path =
    if route.task.appliesPath then route.baseURL.appliedPath route.path else some route.baseURL.path
  value : ∀ field, request.value field = (lastValue route.task.additionalHeaders field).or
    (if SameField contentType field then route.task.writtenType uuid else none)
  httpBody : route.task.Writes foundation uuid request.httpBody

/-- An encoding after additional headers. -/
theorem encode_addAdditionalHeaders_ok {encoding : ParameterEncoding} {request request' : URLRequest}
    {url : URL}
    (hurl : request.url = some url) (hbody : request.httpBody = none) (hfields : request.headerFields = [])
    {headers : Option HTTPHeaders} {bodyParameters urlParameters : Option Parameters} {path : Option String}
    {media : Option (List Media)}
    (h : encoding.encode foundation uuid (addAdditionalHeaders headers request)
      bodyParameters urlParameters path
      media = .ok request') :
    Encoded foundation uuid encoding bodyParameters path media url
      (addAdditionalHeaders headers request) request' ∧
    request'.httpMethod = request.httpMethod ∧ request'.cachePolicy = request.cachePolicy ∧
    ∀ field, request'.value field = (lastValue ((headers.map HTTPHeaders.entries).getD []) field).or
      (if SameField contentType field then encoding.writtenType uuid bodyParameters else none) := by
  obtain ⟨fields, hsame⟩ := addAdditionalHeaders_eq headers request
  have hencoded := encode_ok ((congrArg URLRequest.url hsame).trans hurl)
    ((congrArg URLRequest.httpBody hsame).trans hbody) h
  have hnone : ∀ field, request.value field = none := by
    intro field
    rw [URLRequest.value, hfields]
    rfl
  refine ⟨hencoded, ?_, ?_, fun field => ?_⟩
  · rw [hencoded.httpMethod, hsame]
  · rw [hencoded.cachePolicy, hsame]
  · rw [hencoded.value, value_addAdditionalHeaders, hnone, Option.or_none]

/-- **What the router builds.** -/
theorem buildRequest_ok {route : EndPoint} {request : URLRequest}
    (h : buildRequest foundation uuid route = .ok request) : Built foundation uuid route request := by
  have hok := catching_eq_ok h
  obtain ⟨baseURL, path, method, task, headers, cachePolicy⟩ := route
  dsimp only at hok
  cases task with
  | request =>
    rw [Except.ok.injEq] at hok
    subst hok
    exact ⟨rfl, rfl, rfl, fun field => value_setValue _ _ _ _, rfl⟩
  | downloadFile =>
    rw [Except.ok.injEq] at hok
    subst hok
    refine ⟨rfl, rfl, rfl, fun field => ?_, rfl⟩
    exact (ite_self _).symm
  | requestParameters bodyParameters encoding urlParameters =>
    have hencoded := encode_ok rfl rfl (catching_eq_ok hok)
    exact ⟨hencoded.httpMethod, hencoded.cachePolicy, hencoded.path, hencoded.value, hencoded.httpBody⟩
  | requestParametersAndHeaders bodyParameters encoding urlParameters headers =>
    obtain ⟨hencoded, hmethod, hcache, hvalue⟩ := encode_addAdditionalHeaders_ok rfl rfl rfl (catching_eq_ok hok)
    exact ⟨hmethod, hcache, hencoded.path, hvalue, hencoded.httpBody⟩
  | uploadFile bodyParameters encoding headers media =>
    cases media with
    | none => cases hok
    | some media =>
      obtain ⟨hencoded, hmethod, hcache, hvalue⟩ :=
        encode_addAdditionalHeaders_ok rfl rfl rfl (catching_eq_ok hok)
      exact ⟨hmethod, hcache, hencoded.path, hvalue, hencoded.httpBody⟩

/-! ## What the endpoint declares -/

/-- An additional header of the task overrides this field. -/
def HTTPTask.Overrides (task : HTTPTask) (field : String) : Prop :=
  ∃ header ∈ task.additionalHeaders, SameField header.1 field

instance (task : HTTPTask) (field : String) : Decidable (task.Overrides field) :=
  inferInstanceAs (Decidable (∃ header ∈ task.additionalHeaders, SameField header.1 field))

/-- The request carries everything the endpoint declares. -/
structure Carries (route : EndPoint) (request : URLRequest) : Prop where
  url : ∃ url, request.url = some url ∧ url.path = route.path.getD route.baseURL.path
  httpMethod : request.httpMethod = route.httpMethod.rawValue
  headers : ∀ header ∈ route.headers.entries, ¬ route.task.Overrides header.1 →
    request.value header.1 = some header.2
  cachePolicy : request.cachePolicy = route.cachePolicy

/-- The path is applied to a URL that takes it, or is the base URL's own. -/
def EndPoint.PathCarried (route : EndPoint) : Prop :=
  ∀ path ∈ route.path,
    if route.task.appliesPath = true ∧ route.baseURL.conforms = true then route.baseURL.components.Fits path
    else path = route.baseURL.path

/-- The endpoint declares nothing that the router does not read: a path that is carried, no header
but the Content-Type that is written anyway, and the default cache policy. -/
structure EndPoint.Carried (uuid : UUIDString) (route : EndPoint) : Prop where
  path : route.PathCarried
  headers : ∀ header ∈ route.headers.entries, ¬ route.task.Overrides header.1 →
    SameField contentType header.1 ∧ route.task.writtenType uuid = some header.2
  cachePolicy : route.cachePolicy = .useProtocolCachePolicy

theorem Built.path_iff {route : EndPoint} {request : URLRequest} (h : Built foundation uuid route request) :
    (∃ url, request.url = some url ∧ url.path = route.path.getD route.baseURL.path) ↔ route.PathCarried := by
  have hmap : (∃ url, request.url = some url ∧ url.path = route.path.getD route.baseURL.path) ↔
      request.url.map URL.path = some (route.path.getD route.baseURL.path) := by
    rw [Option.map_eq_some_iff]
  rw [hmap, h.path]
  unfold EndPoint.PathCarried URL.appliedPath
  by_cases happlies : route.task.appliesPath
  · by_cases hconforms : route.baseURL.conforms
    · cases route.path with
      | none => simp [happlies, hconforms]
      | some path =>
        by_cases hfits : route.baseURL.components.Fits path
        · simp [happlies, hconforms, hfits]
        · simp [happlies, hconforms, hfits]
    · cases route.path with
      | none => simp [hconforms]
      | some path => simpa [hconforms] using eq_comm
  · cases route.path with
    | none => simp [happlies]
    | some path => simpa [happlies] using eq_comm

theorem Built.header_iff {route : EndPoint} {request : URLRequest} (h : Built foundation uuid route request)
    {header : String × String} (hnot : ¬ route.task.Overrides header.1) :
    request.value header.1 = some header.2 ↔
      SameField contentType header.1 ∧ route.task.writtenType uuid = some header.2 := by
  have hnone : lastValue route.task.additionalHeaders header.1 = none := by
    rw [lastValue_eq_none_iff]
    exact fun other hother hsame => hnot ⟨other, hother, hsame⟩
  rw [h.value, hnone, Option.none_or]
  by_cases hfield : SameField contentType header.1
  · rw [if_pos hfield, and_iff_right hfield]
  · rw [if_neg hfield]
    exact iff_of_false (by simp) fun h => hfield h.1

/-- **The built request carries everything the endpoint declares**, exactly when the endpoint declares
nothing that the router does not read. -/
theorem carries_iff {foundation : Foundation} {uuid : UUIDString} {route : EndPoint} {request : URLRequest}
    (h : buildRequest foundation uuid route = .ok request) : Carries route request ↔ route.Carried uuid := by
  have hbuilt := buildRequest_ok h
  constructor
  · intro hcarries
    refine ⟨hbuilt.path_iff.1 hcarries.url, fun header hheader hnot => ?_, ?_⟩
    · exact (hbuilt.header_iff hnot).1 (hcarries.headers header hheader hnot)
    · rw [← hcarries.cachePolicy, hbuilt.cachePolicy]
  · intro hcarried
    refine ⟨hbuilt.path_iff.2 hcarried.path, hbuilt.httpMethod, fun header hheader hnot => ?_, ?_⟩
    · exact (hbuilt.header_iff hnot).2 (hcarried.headers header hheader hnot)
    · rw [hbuilt.cachePolicy, hcarried.cachePolicy]

/-- A page of objects is asked for with everything its endpoint declares. -/
theorem carries_homeParameters : ∃ request, buildRequest rfcFoundation someUUID
    ((BaseEnpoint.getExihibitionFromHardvardMuseum homeParameters).endPoint museumURL) =
      .ok request ∧
    Carries ((BaseEnpoint.getExihibitionFromHardvardMuseum homeParameters).endPoint museumURL) request := by
  obtain ⟨request, hbuild⟩ : ∃ request, buildRequest rfcFoundation someUUID
      ((BaseEnpoint.getExihibitionFromHardvardMuseum homeParameters).endPoint museumURL) =
      .ok request := ⟨_, rfl⟩
  refine ⟨request, hbuild, (carries_iff hbuild).2 ⟨?_, ?_, rfl⟩⟩
  · intro path hpath
    cases hpath
    decide
  · intro header hheader
    cases hheader

/-- An endpoint whose headers and cache policy are not read, and whose path is not the base URL's. -/
def aboutEndPoint : EndPoint where
  baseURL := museumURL
  path := some "/about"
  httpMethod := .get
  task := .request
  headers := ⟨[("Accept", "application/json")], by decide⟩
  cachePolicy := .reloadIgnoringLocalCacheData

/-- An endpoint whose path leaves no URL. -/
def objectEndPoint : EndPoint where
  baseURL := museumURL
  path := some "object"
  httpMethod := .get
  task := .requestParameters none .urlEncoding none
  headers := ⟨[], List.nodup_nil⟩
  cachePolicy := .useProtocolCachePolicy

/-- The requests have another path, no Accept header, another cache policy; and no URL. -/
theorem headers_not_carried :
    (∃ request, buildRequest rfcFoundation someUUID aboutEndPoint = .ok request ∧
      ¬ Carries aboutEndPoint request ∧ request.url.map URL.path = some "" ∧ request.value "Accept" = none ∧
      request.cachePolicy ≠ aboutEndPoint.cachePolicy) ∧
    ∃ request, buildRequest rfcFoundation someUUID objectEndPoint = .ok request ∧
      ¬ Carries objectEndPoint request ∧ request.url = none := by
  constructor
  · refine ⟨_, rfl, fun h => ?_, ?_, by decide, by decide⟩
    · exact absurd h.cachePolicy (by decide)
    · rfl
  · refine ⟨_, rfl, fun h => ?_, rfl⟩
    obtain ⟨url, hurl, -⟩ := h.url
    cases hurl

end ArtExhibition.Networking
