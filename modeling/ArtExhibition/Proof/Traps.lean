import ArtExhibition.Proof.BuildRequest

/-!
# When building a request traps

The `catch` blocks of the encoders and of the router catch thrown errors only. The forced
unwrap of a base URL, the exception of `JSONSerialization` and the forced cast of a multipart
value go through them. `behaves_iff`: a `BaseEnpoint` builds a request or throws exactly when
`URL(string:)` takes its base URL, another endpoint exactly when its encoding takes its body
parameters (`HTTPTask.Takes`).
-/

namespace ArtExhibition.Networking

open Wire

variable {α β : Type} {foundation : Foundation} {uuid : UUIDString}

/-- It traps. -/
def Traps (x : Except Failure α) : Prop := ∃ crash, x = .error (.trapped crash)

/-- It returns a result or throws a `NetworkError`. -/
def Behaves (x : Except Failure α) : Prop :=
  (∃ result, x = .ok result) ∨ ∃ error, x = .error (.threw error)

theorem behaves_iff_not_traps (x : Except Failure α) : Behaves x ↔ ¬ Traps x := by
  unfold Behaves Traps
  rcases x with (error | crash) | result
  · simp
  · simp
  · simp

theorem not_behaves {x : Except Failure α} (h : Traps x) : ¬ Behaves x :=
  fun hbehaves => (behaves_iff_not_traps x).1 hbehaves h

@[simp] theorem not_traps_ok (result : α) : ¬ Traps (.ok result : Except Failure α) := by simp [Traps]

@[simp] theorem not_traps_threw (error : NetworkError) :
    ¬ Traps (.error (.threw error) : Except Failure α) := by
  simp [Traps]

@[simp] theorem traps_trapped (crash : Crash) :
    Traps (.error (.trapped crash) : Except Failure α) := ⟨crash, rfl⟩

/-- **A `catch` catches no trap.** -/
@[simp] theorem traps_catching (error : NetworkError) (x : Except Failure α) :
    Traps (catching error x) ↔ Traps x := by
  rcases x with (error' | crash) | result
  · simp [catching]
  · simp [catching]
  · simp [catching]

/-- A bind whose second part never traps. -/
theorem traps_bind_of_safe {x : Except Failure α} {f : α → Except Failure β}
    (hf : ∀ a, ¬ Traps (f a)) :
    Traps (x >>= f) ↔ Traps x := by
  rcases x with (error | crash) | result
  · exact iff_of_false (not_traps_threw error) (not_traps_threw error)
  · exact iff_of_true (traps_trapped crash) (traps_trapped crash)
  · exact iff_of_false (hf result) (not_traps_ok result)

/-! ## The encoders -/

/-- The encoding's encoder takes these body parameters. -/
def ParameterEncoding.Takes (encoding : ParameterEncoding) (bodyParameters : Option Parameters) : Prop :=
  ∀ parameters ∈ bodyParameters, ∀ entry ∈ parameters.entries,
    match encoding with
    | .urlEncoding => True
    | .jsonEncoding | .urlAndJsonEncoding => entry.2.isJSON = true
    | .jsonEncodingWithMultipartdata => entry.2.asString.isSome = true

/-- The route's encoding takes its body parameters; an upload without media encodes nothing. -/
def HTTPTask.Takes : HTTPTask → Prop
  | .request | .downloadFile => True
  | .requestParameters bodyParameters bodyEncoding _
  | .requestParametersAndHeaders bodyParameters bodyEncoding _ _ => bodyEncoding.Takes bodyParameters
  | .uploadFile bodyParameters bodyEncoding _ media =>
      media.isSome = true → bodyEncoding.Takes bodyParameters

theorem traps_jsonParameterEncode (request : URLRequest) (parameters : Option Parameters)
    (path : Option String) :
    Traps (jsonParameterEncode foundation request parameters path) ↔
      ∃ p ∈ parameters, ∃ entry ∈ p.entries, entry.2.isJSON = false := by
  unfold jsonParameterEncode
  cases parameters with
  | none => simp
  | some p =>
    refine (traps_bind_of_safe fun data => not_traps_ok _).trans ?_
    unfold Foundation.data
    by_cases hall : p.entries.all fun entry => entry.2.isJSON
    · rw [if_pos hall]
      refine iff_of_false ?_ ?_
      · cases foundation.jsonData p with
        | ok data => exact not_traps_ok data
        | error _ => exact not_traps_threw _
      · rintro ⟨p', hp', entry, hentry, hjson⟩
        cases hp'
        have := List.all_eq_true.1 hall entry hentry
        rw [hjson] at this
        cases this
    · rw [if_neg hall]
      refine iff_of_true (traps_trapped _) ?_
      simpa using hall

/-- The parts of the parameters are all written, or one of the casts fails. -/
theorem traps_mapM_parameterPart (boundary : String) (entries : List (String × ParameterValue)) :
    Traps (entries.mapM (parameterPart boundary)) ↔ ∃ entry ∈ entries, entry.2.asString = none := by
  induction entries with
  | nil =>
    refine iff_of_false (not_traps_ok []) ?_
    rintro ⟨entry, hentry, -⟩
    cases hentry
  | cons entry entries ih =>
    rw [List.mapM_cons]
    cases hcast : entry.2.asString with
    | none =>
      have hpart : parameterPart boundary entry = .error (.trapped .forcedCast) := by
        unfold parameterPart
        rw [hcast]
      rw [hpart]
      exact iff_of_true (traps_trapped _) ⟨entry, List.mem_cons_self, hcast⟩
    | some value =>
      obtain ⟨part, hpart⟩ : ∃ part, parameterPart boundary entry = .ok part := by
        unfold parameterPart
        rw [hcast]
        exact ⟨_, rfl⟩
      rw [hpart]
      refine (traps_bind_of_safe fun parts => not_traps_ok _).trans (ih.trans ?_)
      simp [hcast]

theorem traps_multipartEncode {request : URLRequest} {url : URL} (hurl : request.url = some url)
    (parameters : Option Parameters) (path : Option String) (media : Option (List Media)) :
    Traps (multipartEncode foundation uuid request parameters path media) ↔
      ∃ p ∈ parameters, ∃ entry ∈ p.entries, entry.2.asString = none := by
  unfold multipartEncode multipartBody
  rw [hurl]
  refine (traps_bind_of_safe fun body => not_traps_ok _).trans ?_
  refine (traps_bind_of_safe fun parts => not_traps_ok _).trans ?_
  rw [traps_mapM_parameterPart]
  cases parameters <;> simp

/-- **An encoding traps** exactly when its encoder does not take the body parameters. -/
theorem traps_encode {request : URLRequest} {url : URL} (hurl : request.url = some url)
    (encoding : ParameterEncoding) (bodyParameters urlParameters : Option Parameters) (path : Option String)
    (media : Option (List Media)) :
    Traps (encoding.encode foundation uuid request bodyParameters urlParameters path media) ↔
      ¬ encoding.Takes bodyParameters := by
  have hurlEncoded := urlParameterEncode_eq foundation hurl urlParameters path
  unfold ParameterEncoding.encode ParameterEncoding.Takes
  rw [traps_catching]
  cases encoding with
  | urlEncoding =>
    dsimp only
    rw [hurlEncoded]
    simp
  | jsonEncoding =>
    rw [traps_jsonParameterEncode]
    simp
  | urlAndJsonEncoding =>
    dsimp only
    rw [hurlEncoded]
    exact (traps_jsonParameterEncode _ bodyParameters path).trans (by simp)
  | jsonEncodingWithMultipartdata =>
    dsimp only
    rw [traps_multipartEncode hurl]
    simp

/-! ## The router -/

/-- **Building a request traps** exactly when its encoding does not take the body parameters. -/
theorem traps_buildRequest (route : EndPoint) :
    Traps (buildRequest foundation uuid route) ↔ ¬ route.task.Takes := by
  have hplain : ({ URLRequest.ofURL route.baseURL with httpMethod := route.httpMethod.rawValue }).url =
    some route.baseURL := rfl
  have hheaders : ∀ headers, (addAdditionalHeaders headers
      { URLRequest.ofURL route.baseURL with httpMethod := route.httpMethod.rawValue }).url =
      some route.baseURL := by
    intro headers
    obtain ⟨fields, hsame⟩ := addAdditionalHeaders_eq headers
      { URLRequest.ofURL route.baseURL with httpMethod := route.httpMethod.rawValue }
    rw [hsame]
    rfl
  unfold buildRequest HTTPTask.Takes
  dsimp only
  rw [traps_catching]
  cases route.task with
  | request => simp
  | downloadFile => simp
  | requestParameters bodyParameters bodyEncoding urlParameters =>
    dsimp only [configureParameters]
    rw [traps_catching, traps_encode hplain]
  | requestParametersAndHeaders bodyParameters bodyEncoding urlParameters additionalHeaders =>
    dsimp only [configureParameters]
    rw [traps_catching, traps_encode (hheaders additionalHeaders)]
  | uploadFile bodyParameters bodyEncoding additionHeaders media =>
    cases media with
    | none => simp
    | some media =>
      dsimp only [configureParametersWithMeida]
      rw [traps_catching, traps_encode (hheaders additionHeaders)]
      simp

/-- The tasks of a `BaseEnpoint` have no body parameters. -/
theorem BaseEnpoint.takes (endpoint : BaseEnpoint) : endpoint.task.Takes := by
  cases endpoint <;> simp [BaseEnpoint.task, HTTPTask.Takes, ParameterEncoding.Takes]

/-- **Building a request never traps**, of a `BaseEnpoint` exactly when `URL(string:)` takes its
base URL, of another endpoint exactly when its encoding takes its body parameters. -/
theorem behaves_iff (urlOfString : String → Option URL) (foundation : Foundation) (uuid : UUIDString) :
    (∀ endpoint : BaseEnpoint, Behaves (endpoint.buildRequest urlOfString foundation uuid) ↔
      (urlOfString endpoint.baseURLString).isSome = true) ∧
    ∀ route : EndPoint, Behaves (buildRequest foundation uuid route) ↔ route.task.Takes := by
  have hroute : ∀ route : EndPoint, Behaves (buildRequest foundation uuid route) ↔ route.task.Takes := by
    intro route
    rw [behaves_iff_not_traps, traps_buildRequest, not_not]
  refine ⟨fun endpoint => ?_, hroute⟩
  unfold BaseEnpoint.buildRequest BaseEnpoint.baseURL
  cases hurl : urlOfString endpoint.baseURLString with
  | none =>
    exact iff_of_false (not_behaves (traps_trapped _)) (by simp)
  | some url => exact iff_of_true ((hroute (endpoint.endPoint url)).2 endpoint.takes) rfl

/-- `URL(string:)` of the museum's address and of the empty string. -/
def museumOrNil (string : String) : Option URL := if string = BASE_URL_MUSEUM then some museumURL else none

/-- A picture without an address, a date in a JSON body and a number in a multipart body: each
ends the process. -/
theorem building_traps :
    ¬ Behaves ((BaseEnpoint.downloadPortraitImage "").buildRequest museumOrNil rfcFoundation someUUID) ∧
    ¬ Behaves (buildRequest rfcFoundation someUUID
      { baseURL := museumURL, path := none, httpMethod := .post, headers := ⟨[], List.nodup_nil⟩
        cachePolicy := .useProtocolCachePolicy
        task := .requestParameters
          (some ⟨[("born", .other "1839-01-19 00:00:00 +0000" false)], by decide⟩) .jsonEncoding none }) ∧
    ¬ Behaves (buildRequest rfcFoundation someUUID
      { baseURL := museumURL, path := none, httpMethod := .post, headers := ⟨[], List.nodup_nil⟩
        cachePolicy := .useProtocolCachePolicy
        task := .uploadFile (some ⟨[("id", .other "1" true)], by decide⟩) .jsonEncodingWithMultipartdata none
          (some ⟨"image", "imagefile.jpg", [], "image/jpeg"⟩) }) :=
  ⟨not_behaves ⟨.forcedUnwrap, rfl⟩, not_behaves ⟨.uncaughtException, rfl⟩,
    not_behaves ⟨.forcedCast, rfl⟩⟩

end ArtExhibition.Networking
