import ArtExhibition.Spec.EndPoint
import Mathlib.Data.List.Nodup
import Mathlib.Tactic.Common

/-!
# When URL parameters survive encoding

`URLParameterEncoder` percent-encodes a value, and `URLComponents` percent-encodes the item it
is put in once more. A reader of the query decodes once. `survives_iff`: the query has exactly
the pairs of the dictionary when the new path fits the URL and the first encoding leaves every
value alone.
-/

namespace ArtExhibition.Networking

open Wire

/-! ## The components of the request's URL -/

/-- The path fits the authority of the components. -/
def URLComponents.Fits (components : URLComponents) (path : String) : Prop :=
  if components.authority.isSome then path = "" ∨ ['/'] <+: path.toList
  else ¬ ['/', '/'] <+: path.toList

instance (components : URLComponents) (path : String) : Decidable (components.Fits path) := by
  unfold URLComponents.Fits
  infer_instance

theorem composes_setPath (allowed : AllowedCharacters) (components : URLComponents) (path : String) :
    (components.setPath allowed path).Composes ↔ components.Fits path := by
  have hslash : ∀ c ∈ ['/'], allowed.path.allowed c = true := by simp [allowed.slash]
  have hslashes : ∀ c ∈ ['/', '/'], allowed.path.allowed c = true := by simp [allowed.slash]
  have hempty : addingPercentEncoding allowed.path path = "" ↔ path = "" := by
    rw [addingPercentEncoding, ← String.toList_inj, String.toList_ofList, String.toList_empty,
      percentEncode_eq_nil_iff, String.toList_eq_nil_iff]
  unfold URLComponents.Composes URLComponents.Fits URLComponents.setPath
  dsimp only
  rw [hempty, addingPercentEncoding, String.toList_ofList, prefix_percentEncode_iff hslash,
    prefix_percentEncode_iff hslashes]

theorem path_setPath (allowed : AllowedCharacters) (components : URLComponents) (path : String) :
    (components.setPath allowed path).path = path := by
  rw [URLComponents.path, URLComponents.setPath, removing_adding, Option.getD_some]

/-- The items that were set are read back. -/
theorem queryItems_setQueryItems (allowed : AllowedCharacters) (components : URLComponents)
    {items : List URLQueryItem} (hvalues : ∀ item ∈ items, item.2.isSome) :
    (components.setQueryItems allowed items).queryItems = some items := by
  rw [URLComponents.queryItems, URLComponents.setQueryItems, Option.map_some, String.toList_ofList,
    parseQuery_printQuery _ hvalues, List.map_map]
  refine congrArg some ?_
  conv_rhs => rw [← List.map_id items]
  refine List.map_congr_left fun item hitem => ?_
  obtain ⟨name, - | value⟩ := item
  · cases hvalues _ hitem
  · simp [text?_utf8]

theorem setQueryItems_append (allowed : AllowedCharacters) (components : URLComponents)
    {items : List URLQueryItem} (hvalues : ∀ item ∈ items, item.2.isSome) (item : URLQueryItem) :
    (components.setQueryItems allowed items).appendQueryItem allowed item =
      components.setQueryItems allowed (items ++ [item]) := by
  unfold URLComponents.appendQueryItem
  rw [queryItems_setQueryItems allowed components hvalues]
  rfl

/-- **Appending item by item** sets all the items. -/
theorem setParameters_eq (allowed : AllowedCharacters) (components : URLComponents)
    (parameters : Parameters) :
    components.setParameters allowed parameters =
      components.setQueryItems allowed (parameters.entries.map queryItem) := by
  unfold URLComponents.setParameters
  generalize parameters.entries = entries
  have hrun : ∀ items : List URLQueryItem, (∀ item ∈ items, item.2.isSome) →
      entries.foldl (fun components entry => components.appendQueryItem allowed (queryItem entry))
        (components.setQueryItems allowed items) =
      components.setQueryItems allowed (items ++ entries.map queryItem) := by
    induction entries with
    | nil =>
      intro items _
      rw [List.map_nil, List.append_nil]
      rfl
    | cons entry entries ih =>
      intro items hvalues
      have hvalues' : ∀ item ∈ items ++ [queryItem entry], item.2.isSome := by
        intro item hitem
        rcases List.mem_append.1 hitem with h | h
        · exact hvalues item h
        · rw [List.mem_singleton.1 h]
          rfl
      rw [List.foldl_cons, setQueryItems_append allowed components hvalues, ih _ hvalues',
        List.append_assoc, List.map_cons, List.singleton_append]
  simpa using hrun [] (by simp)

/-- The components with the path, if there is one. -/
def URLComponents.applying (allowed : AllowedCharacters) (components : URLComponents) (path : Option String) :
    URLComponents :=
  (path.map (components.setPath allowed)).getD components

theorem composes_applying (allowed : AllowedCharacters) (url : URL) (path : Option String) :
    (url.components.applying allowed path).Composes ↔ ∀ p ∈ path, url.components.Fits p := by
  cases path with
  | none => exact iff_of_true url.composes (by simp)
  | some p =>
    rw [URLComponents.applying, Option.map_some, Option.getD_some, composes_setPath]
    simp

theorem url_of_composes {components : URLComponents} (h : components.Composes) :
    components.url = some ⟨components, h, true⟩ :=
  dif_pos h

theorem url_of_not_composes {components : URLComponents} (h : ¬ components.Composes) : components.url = none :=
  dif_neg h

/-- The components that the encoder leaves. -/
def URLComponents.encoded (allowed : AllowedCharacters) (components : URLComponents)
    (parameters : Option Parameters) (path : Option String) : URLComponents :=
  (parameters.map ((components.applying allowed path).setParameters allowed)).getD
    (components.applying allowed path)

/-- The parameters change the query alone. -/
theorem encoded_eq (allowed : AllowedCharacters) (components : URLComponents) (parameters : Option Parameters)
    (path : Option String) : ∃ query, components.encoded allowed parameters path =
      ⟨components.scheme, components.authority, (components.applying allowed path).percentEncodedPath, query,
        components.percentEncodedFragment⟩ := by
  cases parameters with
  | none => cases path <;> exact ⟨_, rfl⟩
  | some parameters =>
    rw [URLComponents.encoded, Option.map_some, Option.getD_some, setParameters_eq]
    cases path <;> exact ⟨_, rfl⟩

theorem composes_encoded (allowed : AllowedCharacters) (url : URL) (parameters : Option Parameters)
    (path : Option String) :
    (url.components.encoded allowed parameters path).Composes ↔ ∀ p ∈ path, url.components.Fits p := by
  obtain ⟨query, hquery⟩ := encoded_eq allowed url.components parameters path
  rw [hquery, ← composes_applying allowed url path]
  cases path <;> rfl

theorem path_encoded (allowed : AllowedCharacters) (components : URLComponents)
    (parameters : Option Parameters)
    (path : Option String) :
    (components.encoded allowed parameters path).path = path.getD components.path := by
  obtain ⟨query, hquery⟩ := encoded_eq allowed components parameters path
  rw [hquery]
  cases path with
  | none => rfl
  | some p => exact path_setPath allowed components p

/-- The URL that the encoder leaves. -/
def encodedURL (foundation : Foundation) (url : URL) (parameters : Option Parameters)
    (path : Option String) : Option URL :=
  if url.conforms then (url.components.encoded foundation.allowed parameters path).url else some url

theorem urlParameterEncode_eq (foundation : Foundation) {request : URLRequest} {url : URL}
    (hurl : request.url = some url) (parameters : Option Parameters) (path : Option String) :
    urlParameterEncode foundation request parameters path =
      .ok ({ request with url := encodedURL foundation url parameters path }.setContentTypeIfNil
        "application/x-www-form-urlencoded; charset=utf-8") := by
  unfold urlParameterEncode encodedURL URLComponents.ofURL
  rw [hurl]
  dsimp only
  by_cases hconforms : url.conforms
  · rw [if_pos hconforms, if_pos hconforms]
    cases path <;> cases parameters <;> rfl
  · rw [if_neg hconforms, if_neg hconforms, ← hurl]

/-- A Content-Type changes header fields alone. -/
theorem setContentTypeIfNil_eq (request : URLRequest) (value : String) :
    ∃ fields, request.setContentTypeIfNil value = { request with headerFields := fields } := by
  unfold URLRequest.setContentTypeIfNil
  split
  · exact ⟨_, rfl⟩
  · exact ⟨_, rfl⟩

/-! ## The pairs of a query -/

/-- The pairs of the query, split and decoded once. -/
def URL.queryPairs (url : URL) : List (Bytes × Option Bytes) :=
  (url.components.percentEncodedQuery.map fun query => parseQuery query.toList).getD []

/-- The pairs of a dictionary: its keys, with the interpolations of their values. -/
def Parameters.pairs (parameters : Parameters) : List (Bytes × Option Bytes) :=
  parameters.entries.map fun entry => (utf8 entry.1, some (utf8 entry.2.description))

/-- The query of the request's URL has the pairs of the dictionary, and nothing else. -/
def Survives (parameters : Parameters) (request : URLRequest) : Prop :=
  ∃ url ∈ request.url, url.queryPairs.Perm parameters.pairs

/-- The first encoding leaves every value alone. -/
def Parameters.Plain (parameters : Parameters) : Prop :=
  ∀ entry ∈ parameters.entries, ∀ c ∈ entry.2.description.toList, urlFragmentAllowed.allowed c = true

instance (parameters : Parameters) : Decidable parameters.Plain :=
  decidable_of_iff
    ((parameters.entries.all fun entry => entry.2.description.toList.all urlFragmentAllowed.allowed) = true)
    (by simp [Parameters.Plain])

/-- What the encoder needs of its input. -/
def SurvivesWhen (url : URL) (parameters : Parameters) (path : Option String) : Prop :=
  if url.conforms then (∀ p ∈ path, url.components.Fits p) ∧ parameters.Plain
  else url.queryPairs.Perm parameters.pairs

instance (url : URL) (parameters : Parameters) (path : Option String) :
    Decidable (SurvivesWhen url parameters path) := by
  unfold SurvivesWhen
  infer_instance

/-- The pairs that a reader of the encoded query finds. -/
theorem parseQuery_setParameters (allowed : AllowedCharacters) (parameters : Parameters) :
    parseQuery (printQuery allowed.queryItem (parameters.entries.map queryItem)) =
      parameters.entries.map fun entry =>
        (utf8 entry.1, some (utf8 (addingPercentEncoding urlFragmentAllowed entry.2.description))) := by
  rw [parseQuery_printQuery, List.map_map]
  · rfl
  · intro item hitem
    obtain ⟨entry, -, rfl⟩ := List.mem_map.1 hitem
    rfl

/-- **The pairs are the dictionary's** exactly when the first encoding leaves its values alone: a
key tells the entry. -/
theorem perm_pairs_iff (parameters : Parameters) :
    (parameters.entries.map fun entry =>
      (utf8 entry.1, some (utf8 (addingPercentEncoding urlFragmentAllowed entry.2.description)))).Perm
        parameters.pairs ↔ parameters.Plain := by
  constructor
  · intro hperm entry hentry
    have hmem := hperm.mem_iff.1 (List.mem_map_of_mem hentry)
    obtain ⟨entry', hentry', heq⟩ := List.mem_map.1 hmem
    have hkey : entry'.1 = entry.1 := utf8_inj.1 (Prod.mk.inj heq).1
    have hsame : entry' = entry := List.inj_on_of_nodup_map parameters.nodup hentry' hentry hkey
    have hvalue := utf8_inj.1 (Option.some.inj (Prod.mk.inj heq).2)
    rw [hsame] at hvalue
    exact (addingPercentEncoding_eq_iff urlFragmentAllowed _).1 hvalue.symm
  · intro hplain
    refine List.Perm.of_eq (List.map_congr_left fun entry hentry => ?_)
    rw [(addingPercentEncoding_eq_iff urlFragmentAllowed _).2 (hplain entry hentry)]

/-! ## Survival -/

/-- The query of the URL that the encoder leaves. -/
theorem survives_encoded {foundation : Foundation} {request request' : URLRequest} {url : URL}
    (hurl : request.url = some url) {parameters : Parameters} {path : Option String}
    (h : urlParameterEncode foundation request (some parameters) path = .ok request') :
    Survives parameters request' ↔ SurvivesWhen url parameters path := by
  rw [urlParameterEncode_eq foundation hurl, Except.ok.injEq] at h
  obtain ⟨fields, hfields⟩ := setContentTypeIfNil_eq
    { request with url := encodedURL foundation url (some parameters) path }
    "application/x-www-form-urlencoded; charset=utf-8"
  rw [← h, hfields]
  unfold Survives SurvivesWhen
  dsimp only [encodedURL]
  by_cases hconforms : url.conforms
  · rw [if_pos hconforms, if_pos hconforms]
    have hfits := composes_encoded foundation.allowed url (some parameters) path
    by_cases hcomposes : (url.components.encoded foundation.allowed (some parameters) path).Composes
    · rw [url_of_composes hcomposes, and_iff_right (hfits.1 hcomposes), ← perm_pairs_iff,
        ← parseQuery_setParameters foundation.allowed]
      simp [URL.queryPairs, URLComponents.encoded, setParameters_eq, URLComponents.setQueryItems]
    · rw [url_of_not_composes hcomposes]
      exact iff_of_false (by simp) fun h => hcomposes (hfits.2 h.1)
  · rw [if_neg hconforms, if_neg hconforms]
    simp

/-- **URL parameters survive encoding**, exactly when the path fits the URL and the first encoding
leaves the values alone; a URL that `URLComponents` does not read keeps its query. -/
theorem survives_iff (foundation : Foundation) {request : URLRequest} {url : URL}
    (hurl : request.url = some url) (parameters : Parameters) (path : Option String) :
    ∃ request', urlParameterEncode foundation request (some parameters) path = .ok request' ∧
      (Survives parameters request' ↔ SurvivesWhen url parameters path) := by
  have hencode := urlParameterEncode_eq foundation hurl (some parameters) path
  exact ⟨_, hencode, survives_encoded hurl hencode⟩

/-- The parameters of the home screen. -/
def homeParameters : Parameters :=
  ⟨[("q", .string "totalpageviews:0"), ("size", .other "200" true)], by decide⟩

theorem homeParameters_survive : ∃ request', urlParameterEncode rfcFoundation (URLRequest.ofURL museumURL)
    (some homeParameters) (some OBJECT_PATH_MUSEUM) = .ok request' ∧ Survives homeParameters request' := by
  have hurl : (URLRequest.ofURL museumURL).url = some museumURL := rfl
  obtain ⟨request', hencode, hsurvives⟩ :=
    survives_iff rfcFoundation hurl homeParameters (some OBJECT_PATH_MUSEUM)
  exact ⟨request', hencode, hsurvives.2 (by decide)⟩

def searchParameters : Parameters := ⟨[("q", .string "title:Van Gogh")], by decide⟩

/-- A space is encoded twice: the query says `q=title:Van%2520Gogh`. -/
theorem space_encoded_twice : ∃ request', urlParameterEncode rfcFoundation (URLRequest.ofURL museumURL)
    (some searchParameters) (some OBJECT_PATH_MUSEUM) = .ok request' ∧
      ¬ Survives searchParameters request' := by
  have hurl : (URLRequest.ofURL museumURL).url = some museumURL := rfl
  have hencode := urlParameterEncode_eq rfcFoundation hurl (some searchParameters) (some OBJECT_PATH_MUSEUM)
  refine ⟨_, hencode, ?_⟩
  rw [survives_encoded hurl hencode]
  decide

end ArtExhibition.Networking
