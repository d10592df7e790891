import Mathlib
import ArtExhibition.Proof.Traps
import ArtExhibition.Spec.Loads

/-!
# What the loads send

A `Load` is one of the requests of the four view models, with the number or the text that it
interpolates; a dictionary of its parameters may iterate in any order. A server reads the path and
the query of a URL, each decoded once: `loads_send` is that it finds the load's path and its
parameters, nothing encoded twice, in a GET request without a body, and that no two loads share a
URL, so that the protocol's cache never answers one load with the response to another.
-/

namespace ArtExhibition

open Wire Networking

variable (foundation : Foundation) (uuid : UUIDString)

/-- The loads of the view models; the home screen's are the exhibitions 0, 10 and 20. -/
inductive Load
  | exhibition (page : Int)
  | personalInformation (personID : Int)
  | objectsOfPerson (personID : Int)
  | detailedNews (objectID : String)
  deriving DecidableEq

namespace Load

def parameters : Load → Parameters
  | exhibition page => totalpageviews page
  | personalInformation _ | detailedNews _ => keyParameters
  | objectsOfPerson personID =>
    ⟨[("apikey", .string keyAPI), ("person", .other (toString personID) true)],
      (by decide : ["apikey", "person"].Nodup)⟩

/-- The endpoint, with a dictionary of the parameters. -/
def endpoint (parameters : Parameters) : Load → BaseEnpoint
  | exhibition _ => .getExihibitionFromHardvardMuseum parameters
  | personalInformation personID => .getPeronalInformation (toString personID) parameters
  | objectsOfPerson _ => .getObjectAccordingToPerson parameters
  | detailedNews objectID => .getDetailedInformationOfObject objectID parameters

/-- The requests of the view models are endpoints of loads. -/
theorem endpoint_parameters :
    (∀ page, (exhibition page).endpoint (exhibition page).parameters = NewsViewModel.request page) ∧
    (∀ personID, (personalInformation personID).endpoint (personalInformation personID).parameters =
      personalInformationRequest personID) ∧
    (∀ personID, (objectsOfPerson personID).endpoint (objectsOfPerson personID).parameters =
      objectOfPersonRequest personID) ∧
    ∀ objectID, (detailedNews objectID).endpoint (detailedNews objectID).parameters =
      detailedNewsRequest objectID :=
  ⟨fun _ => rfl, fun _ => rfl, fun _ => rfl, fun _ => rfl⟩

/-- The path that a server is to read. -/
def path : Load → String
  | exhibition _ | objectsOfPerson _ => "/object"
  | personalInformation personID => "/person/" ++ toString personID
  | detailedNews objectID => "/object/" ++ objectID

/-- The query that a server is to read. -/
def query : Load → List (String × String)
  | exhibition page => [("apikey", keyAPI), ("q", "totalpageviews:" ++ toString page), ("size", "200")]
  | personalInformation _ | detailedNews _ => [("apikey", keyAPI)]
  | objectsOfPerson personID => [("apikey", keyAPI), ("person", toString personID)]

end Load

/-! ## The texts of numbers -/

/-- The text of a number is left alone by the first encoding. -/
theorem urlFragmentAllowed_text (n : Int) :
    ∀ c ∈ (toString n).toList, urlFragmentAllowed.allowed c = true := by
  have hdigits : ∀ m : ℕ, ∀ c ∈ m.repr.toList, urlFragmentAllowed.allowed c = true := by
    intro m c hc
    rw [Nat.toList_repr] at hc
    have hdigit := Nat.isDigit_of_mem_toDigits (by decide) (by decide) hc
    simp [urlFragmentAllowed, Char.isAlphanum, hdigit]
  intro c hc
  rw [Int.toString_eq_repr] at hc
  cases n with
  | ofNat m => exact hdigits m c hc
  | negSucc m =>
    rw [show (Int.negSucc m).repr = "-" ++ m.succ.repr from rfl, String.toList_append] at hc
    rcases List.mem_append.1 hc with hminus | hdigit
    · rw [List.mem_singleton.1 hminus]
      decide
    · exact hdigits m.succ c hdigit

/-- Two loads with one path and one query are one load: a path with an identifier goes on after the
slash, and the two loads of `/object` differ in their keys. -/
theorem Load.ext_of_path_query {load load' : Load} (hpath : load.path = load'.path)
    (hquery : load.query.Perm load'.query) : load = load' := by
  have hchars := congrArg String.toList hpath
  have hpairs : ∀ pair ∈ load.query, pair ∈ load'.query := fun _ => hquery.mem_iff.1
  revert hchars hpairs
  cases load <;> cases load' <;>
    simp [Load.path, Load.query, String.toList_append, String.toList_inj, Int.repr_inj]

/-! ## The requests -/

/-- A museum endpoint that encodes its parameters in the URL. -/
theorem museum_built {urlOfString : String → Option Networking.URL}
    (hmuseum : urlOfString BASE_URL_MUSEUM = some museumURL) {endpoint : BaseEnpoint}
    (hbase : endpoint.baseURLString = BASE_URL_MUSEUM) {parameters : Parameters}
    (htask : endpoint.task = .requestParameters none .urlEncoding (some parameters) ∨
      endpoint.task = .requestParameters none .urlAndJsonEncoding (some parameters)) :
    endpoint.buildRequest urlOfString foundation uuid =
      .ok ({ URLRequest.ofURL museumURL with
        url := encodedURL foundation museumURL (some parameters) endpoint.path }.setContentTypeIfNil
          "application/x-www-form-urlencoded; charset=utf-8") := by
  have hurl : (URLRequest.ofURL museumURL).url = some museumURL := rfl
  have hencode := urlParameterEncode_eq foundation hurl (some parameters) endpoint.path
  have hendpoint : endpoint.baseURL urlOfString = .ok museumURL := by
    unfold BaseEnpoint.baseURL
    rw [hbase, hmuseum]
  have hget : { URLRequest.ofURL museumURL with httpMethod := HTTPMethod.get.rawValue } =
    URLRequest.ofURL museumURL := rfl
  unfold BaseEnpoint.buildRequest
  rw [hendpoint]
  change buildRequest foundation uuid (endpoint.endPoint museumURL) = _
  unfold buildRequest BaseEnpoint.endPoint configureParameters ParameterEncoding.encode
  dsimp only
  rcases htask with htask | htask
  · rw [htask]
    dsimp only
    rw [hget, hencode]
    rfl
  · rw [htask]
    dsimp only
    rw [hget, hencode]
    rfl

/-- What the URL says of a load, to a reader that decodes path and query once. -/
structure Load.Says (load : Load) (url : Networking.URL) : Prop where
  scheme : url.components.scheme = some "https"
  host : url.components.authority = some "api.harvardartmuseums.org"
  path : url.path = load.path
  query : url.queryPairs.Perm (load.query.map fun (name, value) => (utf8 name, some (utf8 value)))
  fragment : url.components.percentEncodedFragment = none

/-- A URL says at most one load. -/
theorem Load.Says.unique {load load' : Load} {url : Networking.URL} (h : load.Says url) (h' : load'.Says url) :
    load = load' := by
  refine Load.ext_of_path_query (h.path.symm.trans h'.path) ?_
  have hinjective : Function.Injective fun pair : String × String => (utf8 pair.1, some (utf8 pair.2)) := by
    intro pair pair' heq
    obtain ⟨hname, hvalue⟩ := Prod.mk.inj heq
    exact Prod.ext (utf8_inj.1 hname) (utf8_inj.1 (Option.some.inj hvalue))
  exact (List.map_perm_map_iff hinjective).1 (h.query.symm.trans h'.query)

/-- The pairs of a dictionary of the parameters. -/
theorem Load.pairs_perm (load : Load) {parameters : Parameters}
    (hparameters : parameters.entries.Perm load.parameters.entries) :
    parameters.pairs.Perm (load.query.map fun (name, value) => (utf8 name, some (utf8 value))) := by
  have hquery : load.parameters.pairs =
      load.query.map fun (name, value) => (utf8 name, some (utf8 value)) := by cases load <;> rfl
  rw [← hquery]
  exact hparameters.map _

/-- The first encoding leaves the parameters of a load alone. -/
theorem Load.parameters_plain (load : Load) : load.parameters.Plain := by
  have hkey : ∀ c ∈ keyAPI.toList, urlFragmentAllowed.allowed c = true := forall_of_all (by decide)
  have hsize : ∀ c ∈ "200".toList, urlFragmentAllowed.allowed c = true := forall_of_all (by decide)
  have hq : ∀ c ∈ "totalpageviews:".toList, urlFragmentAllowed.allowed c = true := forall_of_all (by decide)
  have hpage : ∀ page : Int, ∀ c ∈ ("totalpageviews:" ++ toString page).toList,
      urlFragmentAllowed.allowed c = true := by
    intro page c hc
    rw [String.toList_append] at hc
    exact (List.mem_append.1 hc).elim (hq c) (urlFragmentAllowed_text page c)
  cases load with
  | exhibition page =>
    exact List.forall_mem_cons.2
      ⟨hkey, List.forall_mem_cons.2 ⟨hpage page, List.forall_mem_singleton.2 hsize⟩⟩
  | personalInformation personID => exact List.forall_mem_singleton.2 hkey
  | objectsOfPerson personID =>
    exact List.forall_mem_cons.2 ⟨hkey, List.forall_mem_singleton.2 (urlFragmentAllowed_text personID)⟩
  | detailedNews objectID => exact List.forall_mem_singleton.2 hkey

theorem Load.fits (load : Load) : museumURL.components.Fits load.path := by
  have hslash : ['/'] <+: load.path.toList := by
    cases load <;> simp [Load.path, String.toList_append]
  exact Or.inr hslash

/-- **A plain dictionary is encoded once**: its pairs are what a reader of the query finds. -/
theorem parseQuery_encoded {allowed : AllowedCharacters} {components : URLComponents}
    {parameters : Parameters} (hplain : parameters.Plain) {path : Option String} :
    ((components.encoded allowed (some parameters) path).percentEncodedQuery.map
      fun query => parseQuery query.toList).getD [] = parameters.pairs := by
  rw [URLComponents.encoded, Option.map_some, Option.getD_some, setParameters_eq,
    URLComponents.setQueryItems, Option.map_some, Option.getD_some, String.toList_ofList,
    parseQuery_setParameters]
  refine List.map_congr_left fun entry hentry => ?_
  rw [(addingPercentEncoding_eq_iff urlFragmentAllowed _).2 (hplain entry hentry)]

/-- **What the router makes of a load**, with any dictionary of its parameters. -/
theorem Load.built (load : Load) {parameters : Parameters}
    (hparameters : parameters.entries.Perm load.parameters.entries)
    {urlOfString : String → Option Networking.URL}
    (hmuseum : urlOfString BASE_URL_MUSEUM = some museumURL) : ∃ request url,
      (load.endpoint parameters).buildRequest urlOfString foundation uuid = .ok request ∧
      request.url = some url ∧ request.httpMethod = "GET" ∧ request.httpBody = none ∧ load.Says url := by
  have hbase : (load.endpoint parameters).baseURLString = BASE_URL_MUSEUM := by cases load <;> rfl
  have hpath : (load.endpoint parameters).path = some load.path := by cases load <;> rfl
  have htask : (load.endpoint parameters).task = .requestParameters none .urlEncoding (some parameters) ∨
      (load.endpoint parameters).task = .requestParameters none .urlAndJsonEncoding (some parameters) := by
    cases load <;> simp [Load.endpoint, BaseEnpoint.task]
  have hplain : parameters.Plain :=
    fun entry hentry => load.parameters_plain entry (hparameters.mem_iff.1 hentry)
  have hcomposes := (composes_encoded foundation.allowed museumURL (some parameters) (some load.path)).2
    (by simpa using load.fits)
  obtain ⟨fields, hfields⟩ := setContentTypeIfNil_eq { URLRequest.ofURL museumURL with
    url := encodedURL foundation museumURL (some parameters) (some load.path) }
    "application/x-www-form-urlencoded; charset=utf-8"
  have hbuilt := museum_built foundation uuid hmuseum hbase htask
  rw [hpath, hfields] at hbuilt
  refine ⟨_, ⟨_, hcomposes, true⟩, hbuilt, url_of_composes hcomposes, rfl, rfl, ?_⟩
  obtain ⟨query, hencoded⟩ := encoded_eq foundation.allowed museumURL.components (some parameters)
    (some load.path)
  exact {
    scheme := congrArg URLComponents.scheme hencoded
    host := congrArg URLComponents.authority hencoded
    path := path_encoded foundation.allowed museumURL.components (some parameters) (some load.path)
    query := (List.Perm.of_eq (parseQuery_encoded hplain)).trans (load.pairs_perm hparameters)
    fragment := congrArg URLComponents.percentEncodedFragment hencoded }

/-- Every load, whatever the order of its dictionary, is sent as a GET request without a body whose
URL says the load; and requests with one URL are of one load. -/
theorem loads_send {urlOfString : String → Option Networking.URL}
    (hmuseum : urlOfString BASE_URL_MUSEUM = some museumURL) :
    (∀ (load : Load) (parameters : Parameters), parameters.entries.Perm load.parameters.entries →
      ∃ request url, (load.endpoint parameters).buildRequest urlOfString foundation uuid = .ok request ∧
        request.url = some url ∧ request.httpMethod = "GET" ∧ request.httpBody = none ∧ load.Says url) ∧
    ∀ (load load' : Load) (parameters parameters' : Parameters) (request request' : URLRequest),
      parameters.entries.Perm load.parameters.entries → parameters'.entries.Perm load'.parameters.entries →
      (load.endpoint parameters).buildRequest urlOfString foundation uuid = .ok request →
      (load'.endpoint parameters').buildRequest urlOfString foundation uuid = .ok request' →
      request.url = request'.url → load = load' := by
  refine ⟨fun load parameters hparameters => load.built foundation uuid hparameters hmuseum, ?_⟩
  intro load load' parameters parameters' request request' hparameters hparameters' hbuild hbuild' hsame
  obtain ⟨built, url, hbuilt, hurl, -, -, hsays⟩ := load.built foundation uuid hparameters hmuseum
  obtain ⟨built', url', hbuilt', hurl', -, -, hsays'⟩ := load'.built foundation uuid hparameters' hmuseum
  cases hbuild.symm.trans hbuilt
  cases hbuild'.symm.trans hbuilt'
  rw [hurl, hurl', Option.some.injEq] at hsame
  exact hsays.unique (hsame ▸ hsays')

/-- An identifier with a question mark and a space stays in the path. -/
theorem loads_send_museum : museumOrNil BASE_URL_MUSEUM = some museumURL ∧
    ∃ request url,
      (detailedNewsRequest "2 ?x").buildRequest museumOrNil rfcFoundation someUUID = .ok request ∧
      request.url = some url ∧ request.httpMethod = "GET" ∧ request.httpBody = none ∧
      (Load.detailedNews "2 ?x").Says url := by
  have hmuseum : museumOrNil BASE_URL_MUSEUM = some museumURL := if_pos rfl
  exact ⟨hmuseum, (loads_send rfcFoundation someUUID hmuseum).1 (.detailedNews "2 ?x") _ (.refl _)⟩

end ArtExhibition
