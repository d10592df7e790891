import ArtExhibition.Proof.Multipart

/-!
# When the Content-Type describes the body

Each encoder sets a Content-Type only when there is none. So the URL encoder's stays when the
JSON encoder writes the body after it, and an additional header's stays over a multipart body,
whose boundary it cannot know. `described_iff`: those are the only requests whose Content-Type
does not describe their body.
-/

namespace ArtExhibition.Networking

open Wire

variable {foundation : Foundation} {uuid : UUIDString}

/-- The value of a Content-Type is `multipart/form-data` and declares this boundary. -/
def DeclaresBoundary (value boundary : String) : Prop :=
  ∃ parameters, parseValue (utf8 value) = some (utf8 "multipart/form-data", parameters) ∧
    parameters.lookup (utf8 "boundary") = some (utf8 boundary)

/-- The Content-Type of the request describes its body. -/
structure Described (route : EndPoint) (request : URLRequest) : Prop where
  json : ∀ data, request.httpBody = some (.json data) →
      lastValue route.task.additionalHeaders contentType = none →
    request.value contentType = some "application/json"
  multipart : ∀ boundary data, request.httpBody = some (.multipart boundary data) →
    ∃ value, request.value contentType = some value ∧ DeclaresBoundary value boundary

/-! ## The boundary that the encoder declares -/

theorem isToken_of_mem_boundary {b : UInt8} (h : b ∈ utf8 (boundaryOf uuid)) : isToken b = true := by
  obtain ⟨c, hc, hb⟩ := List.mem_flatMap.1 h
  have hascii : IsASCII c := isASCII_boundary hc
  rw [utf8EncodeChar_ascii hascii, List.mem_singleton] at hb
  have hall : ∀ n < 128, (Char.ofNat n).isAlphanum = true ∨ Char.ofNat n = '-' →
      isToken (UInt8.ofNat n) = true := by
    decide
  rw [hb]
  refine hall c.toNat hascii ?_
  rw [Char.ofNat_toNat]
  exact mem_boundaryOf hc

theorem declaresBoundary_boundaryOf (uuid : UUIDString) :
    DeclaresBoundary ("multipart/form-data; boundary=" ++ boundaryOf uuid) (boundaryOf uuid) := by
  refine ⟨[(utf8 "boundary", utf8 (boundaryOf uuid))], ?_, List.lookup_cons_self⟩
  have hvalue : utf8 "multipart/form-data; boundary=" =
      utf8 "multipart/form-data" ++ semicolon :: 32 :: (utf8 "boundary" ++ [equals]) := rfl
  have hkind : ∀ b ∈ utf8 "multipart/form-data", decide (b ≠ semicolon) = true :=
    forall_of_all (by decide)
  have hname : IsName (utf8 "boundary") := by decide
  have hread := parseValue_token hkind (by decide) (by decide) hname
    fun b (hb : b ∈ utf8 (boundaryOf uuid)) => isToken_of_mem_boundary hb
  rw [utf8_append, hvalue]
  simpa using hread

/-! ## Which encodings describe their body -/

/-- No other Content-Type is there when the encoding writes the body: over JSON there is the URL
encoder's, unless another was given; over a form there is the one that was given. -/
def ParameterEncoding.Describes (encoding : ParameterEncoding) (uuid : UUIDString)
    (bodyParameters : Option Parameters) (given : Option String) : Prop :=
  match encoding, bodyParameters with
  | .urlAndJsonEncoding, some _ => given ≠ none
  | .jsonEncodingWithMultipartdata, _ =>
      ∀ value, given = some value → DeclaresBoundary value (boundaryOf uuid)
  | .urlEncoding, _ | .jsonEncoding, _ | .urlAndJsonEncoding, none => True

def HTTPTask.Describes (uuid : UUIDString) (task : HTTPTask) : Prop :=
  match task with
  | .request | .downloadFile => True
  | .requestParameters bodyParameters encoding _ | .requestParametersAndHeaders bodyParameters encoding _ _
  | .uploadFile bodyParameters encoding _ _ =>
    encoding.Describes uuid bodyParameters (lastValue task.additionalHeaders contentType)

/-- The Content-Type with this value describes the body; `given` is the additional one. -/
def DescribesBody (value given : Option String) (body : Option HTTPBody) : Prop :=
  (∀ data, body = some (.json data) → given = none → value = some "application/json") ∧
  ∀ boundary data, body = some (.multipart boundary data) →
    ∃ v, value = some v ∧ DeclaresBoundary v boundary

theorem described_iff_describesBody (route : EndPoint) (request : URLRequest) : Described route request ↔
    DescribesBody (request.value contentType) (lastValue route.task.additionalHeaders contentType)
      request.httpBody :=
  ⟨fun h => ⟨h.json, h.multipart⟩, fun h => ⟨h.1, h.2⟩⟩

theorem describesBody_none {value given : Option String} {body : Option HTTPBody} (h : body = none) :
    DescribesBody value given body := by
  rw [h]
  refine ⟨fun _ hjson => ?_, fun _ _ hmultipart => ?_⟩
  · cases hjson
  · cases hmultipart

theorem describesBody_iff {encoding : ParameterEncoding} {bodyParameters : Option Parameters}
    {media : Option (List Media)} {body : Option HTTPBody} {value given : Option String}
    (hbody : encoding.Writes foundation uuid bodyParameters media body)
    (hvalue : value = given.or (encoding.writtenType uuid bodyParameters)) :
    DescribesBody value given body ↔ encoding.Describes uuid bodyParameters given := by
  cases encoding with
  | urlEncoding => exact iff_of_true (describesBody_none hbody) trivial
  | jsonEncoding =>
    cases bodyParameters with
    | none => exact iff_of_true (describesBody_none hbody) trivial
    | some p =>
      obtain ⟨data, -, rfl⟩ := hbody
      refine iff_of_true ⟨fun _ _ hgiven => ?_, fun _ _ h => (by cases h)⟩ trivial
      rw [hvalue, hgiven]
      rfl
  | urlAndJsonEncoding =>
    cases bodyParameters with
    | none => exact iff_of_true (describesBody_none hbody) trivial
    | some p =>
      obtain ⟨data, -, rfl⟩ := hbody
      constructor
      · intro h hgiven
        have hjson := h.1 data rfl hgiven
        rw [hvalue, hgiven] at hjson
        exact absurd (Option.some.inj hjson) (by decide)
      · intro hgiven
        exact ⟨fun _ _ h => absurd h hgiven, fun _ _ h => (by cases h)⟩
  | jsonEncodingWithMultipartdata =>
    obtain ⟨data, -, rfl⟩ := hbody
    constructor
    · intro h v hgiven
      obtain ⟨v', hv', hdeclares⟩ := h.2 _ data rfl
      rw [hvalue, hgiven, Option.some_or, Option.some.injEq] at hv'
      rwa [hv']
    · intro h
      refine ⟨fun _ h => (by cases h), fun boundary _ hboundary => ?_⟩
      cases hboundary
      cases given with
      | none => exact ⟨_, hvalue, declaresBoundary_boundaryOf uuid⟩
      | some v => exact ⟨v, hvalue, h v rfl⟩

/-- **Content-Type describes the body**, exactly when no other Content-Type is there first. -/
theorem described_iff {foundation : Foundation} {uuid : UUIDString} {route : EndPoint} {request : URLRequest}
    (h : buildRequest foundation uuid route = .ok request) :
    Described route request ↔ route.task.Describes uuid := by
  have hbuilt := buildRequest_ok h
  have hvalue := hbuilt.value contentType
  have hbody := hbuilt.httpBody
  rw [if_pos (show SameField contentType contentType from rfl)] at hvalue
  rw [described_iff_describesBody]
  generalize route.task = task at hvalue hbody ⊢
  cases task with
  | request => exact iff_of_true (describesBody_none hbody) trivial
  | downloadFile => exact iff_of_true (describesBody_none hbody) trivial
  | requestParameters bodyParameters encoding urlParameters => exact describesBody_iff hbody hvalue
  | requestParametersAndHeaders bodyParameters encoding urlParameters headers =>
    exact describesBody_iff hbody hvalue
  | uploadFile bodyParameters encoding headers media => exact describesBody_iff hbody hvalue

/-- The upload of a picture. -/
def uploadEndPoint (headers : Option HTTPHeaders) : EndPoint where
  baseURL := museumURL
  path := some OBJECT_PATH_MUSEUM
  httpMethod := .post
  task := .uploadFile none .jsonEncodingWithMultipartdata headers
    (some ⟨"image", "imagefile.jpg", [], "image/jpeg"⟩)
  headers := ⟨[], List.nodup_nil⟩
  cachePolicy := .useProtocolCachePolicy

theorem described_upload : ∃ request,
    buildRequest rfcFoundation someUUID (uploadEndPoint none) = .ok request ∧
    Described (uploadEndPoint none) request := by
  obtain ⟨request, hbuild⟩ :
      ∃ request, buildRequest rfcFoundation someUUID (uploadEndPoint none) = .ok request :=
    ⟨_, rfl⟩
  exact ⟨request, hbuild, (described_iff hbuild).2 fun value hvalue => (by cases hvalue)⟩

/-- A JSON body after URL parameters. -/
def urlAndJsonEndPoint : EndPoint where
  baseURL := museumURL
  path := none
  httpMethod := .post
  task := .requestParameters (some ⟨[], List.nodup_nil⟩) .urlAndJsonEncoding none
  headers := ⟨[], List.nodup_nil⟩
  cachePolicy := .useProtocolCachePolicy

/-- A JSON body with the Content-Type of the URL encoder, and a multipart body with a given one. -/
theorem json_body_form_type :
    (∃ request, buildRequest rfcFoundation someUUID urlAndJsonEndPoint = .ok request ∧
      ¬ Described urlAndJsonEndPoint request) ∧
    ∃ request, buildRequest rfcFoundation someUUID
        (uploadEndPoint (some ⟨[("Content-Type", "application/json")], by decide⟩)) = .ok request ∧
      ¬ Described (uploadEndPoint (some ⟨[("Content-Type", "application/json")], by decide⟩))
        request := by
  constructor
  · refine ⟨_, rfl, fun h => ?_⟩
    exact absurd (h.json _ rfl rfl) (by decide)
  · refine ⟨_, rfl, fun h => ?_⟩
    obtain ⟨value, hvalue, parameters, hread, -⟩ := h.multipart _ _ rfl
    have hjson : "application/json" = value := Option.some.inj hvalue
    rw [← hjson] at hread
    obtain ⟨_, -, hpair⟩ := Option.map_eq_some_iff.1 hread
    exact absurd (Prod.mk.inj hpair).1 (by decide)

end ArtExhibition.Networking
