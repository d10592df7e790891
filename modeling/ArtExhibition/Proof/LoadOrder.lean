import ArtExhibition.Machine.Completion
import ArtExhibition.Machine.History
import ArtExhibition.Machine.Slots
import ArtExhibition.Proof.FailedReloads

/-!
# Loads and the order in which their requests complete

The home screen's three requests are collected as they come, and each page of the news replaces
the one before as it comes; nothing in either ties a result to its request.

* `section_order_iff`: the order of completion does not show in the home sections exactly when no
  two of the results differ. `two_sections_swapped` has two that do.
* `last_page_iff`: once every overlapping load of the news is done, the page requested last is the
  one served exactly when the load that completed last got the same records. `first_page_served`
  has two pages that complete the other way round.
-/

namespace ArtExhibition

open Machine Wire Networking

/-! ## The sections of the home screen -/

/-- The successful results, in the order of the requests. -/
def inRequestOrder {Object : Type} (results : Fin 3 → Option Object) : List (Option Object) :=
  ((List.ofFn results).filterMap id).map some

theorem sections_completed {Object : Type} (results : Fin 3 → Option Object) (order : Equiv.Perm (Fin 3)) :
    HomeViewModel.sections (completed results order) = (arrivals results order).map some := rfl

theorem inRequestOrder_eq {Object : Type} (results : Fin 3 → Option Object) :
    inRequestOrder results = (arrivals results (.refl _)).map some := rfl

/-- What is read of the objects shows as much of the list. -/
theorem sections_map {Object Read : Type} (read : Object → Read) (results : List (Option Object)) :
    HomeViewModel.sections (results.map (Option.map read)) =
      (HomeViewModel.sections results).map (Option.map read) := by
  simp only [HomeViewModel.sections, List.filterMap_map, List.map_filterMap, Function.comp_def, id_eq]
  exact List.filterMap_congr fun result _ => by cases result <;> rfl

theorem completed_map {Object Read : Type} (read : Object → Read) (results : Fin 3 → Option Object)
    (order : Equiv.Perm (Fin 3)) :
    completed (fun k => (results k).map read) order = (completed results order).map (Option.map read) := by
  unfold completed
  rw [List.map_ofFn]
  rfl

/-- **The order of the sections does not depend on timing exactly when no two results differ**, for
objects of any type; and whatever the accessors read of an object, the view model has it of these
objects in this order. -/
theorem section_order_iff {Object : Type} (results : Fin 3 → Option Object) :
    ((∀ σ τ : Equiv.Perm (Fin 3),
      HomeViewModel.sections (completed results σ) = HomeViewModel.sections (completed results τ) ∧
        HomeViewModel.sections (completed results σ) = inRequestOrder results) ↔
      ∀ i j a b, results i = some a → results j = some b → a = b) ∧
    ∀ (v : HomeViewModel) (read : Object → HardvardMuseumObject) (order : Equiv.Perm (Fin 3)),
      (v.collect (fun k => (results k).map read) order).hardvardMuseumObjectModel =
        (HomeViewModel.sections (completed results order)).map (Option.map read) := by
  have hinj := List.map_injective_iff.2 (Option.some_injective Object)
  refine ⟨?_, fun v read order => ?_⟩
  · rw [← arrivals_const_iff]
    constructor
    · intro h σ τ
      exact hinj (h σ τ).1
    · intro h σ τ
      rw [sections_completed, sections_completed, inRequestOrder_eq, h σ τ, h τ (.refl _)]
      exact ⟨rfl, rfl⟩
  · rw [← sections_map, ← completed_map]
    rfl

/-- The first two requests bring different exhibitions, and the third fails. -/
def twoSections : Fin 3 → Option HardvardMuseumObject
  | 0 => some ⟨some ⟨some 200⟩, none⟩
  | 1 => some ⟨some ⟨some 40⟩, none⟩
  | 2 => none

/-- **The second request completes first, and its section comes first.** -/
theorem two_sections_swapped :
    (HomeViewModel.collect ⟨[], false⟩ twoSections (.refl _)).hardvardMuseumObjectModel =
        inRequestOrder twoSections ∧
      (HomeViewModel.collect ⟨[], false⟩ twoSections (Equiv.swap 0 1)).hardvardMuseumObjectModel ≠
        inRequestOrder twoSections := by
  decide

/-! ## The pages of the news -/

section News

variable {decode : Bytes → Except NSError HardvardMuseumObject} {v : NewsViewModel}

/-- The records that a load got. -/
def NewsLoad.records (load : NewsLoad) : Option (List HardvardMuseumObjectRecord) :=
  load.result.join.bind (·.records)

/-- The accessors serve these records. -/
def NewsViewModel.Serves (v : NewsViewModel) (records : Option (List HardvardMuseumObjectRecord)) : Prop :=
  NewsViewModel.Same ⟨records, true⟩ v

/-- The number of the call whose request completes. -/
def NewsLoadEvent.completes : NewsLoadEvent → List ℕ
  | .getHardvardMuseumObjectModel _ => []
  | .complete i _ => [i]

/-- The system with the numbers of the calls that have completed, the latest last. -/
def completingStep (decode : Bytes → Except NSError HardvardMuseumObject) :=
  recorded (NewsLoads.step decode) fun _ e => e.completes

/-- The numbers of the calls of a run, in the order in which their requests complete. -/
def completionOrder (decode : Bytes → Except NSError HardvardMuseumObject) (v : NewsViewModel)
    (es : List NewsLoadEvent) : List ℕ :=
  shown (NewsLoads.step decode) (fun _ e => e.completes) ⟨v, []⟩ es

/-- **The view model has what the latest to complete got**; before any completes, no load has a
result. -/
structure FromLatest (s : NewsLoads × List ℕ) : Prop where
  latest : ∀ i ∈ s.2.getLast?, ∃ load, s.1.loads[i]? = some load ∧ load.result.isSome ∧
    s.1.viewModel = ⟨load.records, true⟩
  pending : s.2 = [] → ∀ load ∈ s.1.loads, load.result = none

theorem fromLatest_step {s s' : NewsLoads × List ℕ} {e : NewsLoadEvent} (h : FromLatest s)
    (hs : completingStep decode s e = some s') : FromLatest s' := by
  obtain ⟨hstep, hrecord⟩ := recorded_eq_some.1 hs
  cases e with
  | getHardvardMuseumObjectModel page =>
    -- a new load is added at the end, without a result
    have hsame : s'.2 = s.2 := by simpa [NewsLoadEvent.completes] using hrecord
    have hstate := Option.some.inj hstep
    refine ⟨fun i hi => ?_, fun hnone => ?_⟩
    · rw [hsame] at hi
      obtain ⟨load, hload, hresult, hview⟩ := h.latest i hi
      refine ⟨load, ?_, hresult, ?_⟩
      · rw [← hstate, List.getElem?_append_left (List.getElem?_eq_some_iff.1 hload).1]
        exact hload
      · rw [← hstate]; exact hview
    · rw [← hstate]
      exact forall_mem_snoc_iff.2 ⟨h.pending (hsame ▸ hnone), rfl⟩
  | complete i response =>
    have hlast : s'.2 = s.2 ++ [i] := hrecord
    unfold NewsLoads.step at hstep
    dsimp only at hstep
    split at hstep
    · rename_i page hload
      have hstate := Option.some.inj hstep
      have hi := (List.getElem?_eq_some_iff.1 hload).1
      refine ⟨fun j hj => ?_, fun hnone => by simp [hlast] at hnone⟩
      rw [hlast, List.getLast?_append, List.getLast?_singleton] at hj
      obtain rfl : i = j := Option.some.inj hj
      refine ⟨⟨page, some (nilOnError (callAndParseAPI decode response))⟩, ?_, rfl, ?_⟩
      · rw [← hstate]; exact List.getElem?_set_self hi
      · rw [← hstate]; rfl
    · cases hstep

theorem fromLatest_start (v : NewsViewModel) : FromLatest (⟨v, []⟩, []) :=
  ⟨nofun, fun _ => nofun⟩

/-- In a run from any view model, whatever has completed. -/
theorem fromLatest_run {es : List NewsLoadEvent} {s : NewsLoads}
    (hrun : run (NewsLoads.step decode) ⟨v, []⟩ es = some s) :
    FromLatest (s, completionOrder decode v es) :=
  run_inv (fun _ _ _ => fromLatest_step) es (fromLatest_start v)
    (run_recorded.2 ⟨hrun, (List.nil_append _).symm⟩)

/-- Once a load has a result, the view model serves what the latest to complete got. -/
theorem serves_iff {s : NewsLoads × List ℕ} (h : FromLatest s) {last : NewsLoad} (hlast : last ∈ s.1.loads)
    (hdone : last.result.isSome) :
    s.1.viewModel.Serves last.records ↔
      ∃ i ∈ s.2.getLast?, ∃ load ∈ s.1.loads[i]?, load.records = last.records := by
  cases hl : s.2.getLast? with
  | none =>
    -- nothing has completed, but `last` has
    rw [h.pending (List.getLast?_eq_none_iff.1 hl) last hlast] at hdone
    cases hdone
  | some i =>
    obtain ⟨load, hload, -, hview⟩ := h.latest i hl
    rw [NewsViewModel.Serves, NewsViewModel.same_iff, hview]
    simp [hload]

/-- **The last requested page is served exactly when the load that completed last got the same
records** (it is that load itself, for one). Over any view model, any pages and any order, with every
load done and successful. -/
theorem last_page_iff (decode : Bytes → Except NSError HardvardMuseumObject) (v : NewsViewModel)
    {es : List NewsLoadEvent} {s : NewsLoads} (hrun : run (NewsLoads.step decode) ⟨v, []⟩ es = some s)
    (hdone : ∀ load ∈ s.loads, ∃ object, load.result = some (some object))
    {last : NewsLoad} (hlast : s.loads.getLast? = some last) :
    s.viewModel.Serves last.records ↔
      ∃ i ∈ (completionOrder decode v es).getLast?, ∃ load ∈ s.loads[i]?, load.records = last.records := by
  have hmem := List.mem_of_getLast? hlast
  obtain ⟨object, hresult⟩ := hdone last hmem
  exact serves_iff (fromLatest_run hrun) hmem (by rw [hresult]; rfl)

/-! ## Two pages -/

/-- `{"records":[{"title":"…"}]}`. -/
def pageBody (title : String) : Bytes :=
  utf8 ("\x7b\"records\":[\x7b\"title\":\"" ++ title ++ "\"\x7d]\x7d")

/-- Decoding, of two bodies. -/
def decodePage (body : Bytes) : Except NSError HardvardMuseumObject :=
  if body = pageBody "A" then .ok ⟨none, some [⟨some "A", none, none⟩]⟩
  else if body = pageBody "B" then .ok ⟨none, some [⟨some "B", none, none⟩]⟩
  else .error ⟨4864⟩

/-- The response with a page. -/
def pageResponse (title : String) : Except NSError RouterResponse :=
  .ok ⟨some (pageBody title), some (.http ⟨200⟩)⟩

/-- Pages 0 and 10 are asked for, one before the other is there. -/
def twoPages (first second : NewsLoadEvent) : List NewsLoadEvent :=
  [.getHardvardMuseumObjectModel 0, .getHardvardMuseumObjectModel 10, first, second]

theorem last_page_served : ∃ s, run (NewsLoads.step decodePage) ⟨⟨none, false⟩, []⟩
      (twoPages (.complete 0 (pageResponse "A")) (.complete 1 (pageResponse "B"))) = some s ∧
    s.viewModel.Serves (some [⟨some "B", none, none⟩]) := by
  obtain ⟨s, hrun, hloads⟩ : ∃ s, run (NewsLoads.step decodePage) ⟨⟨none, false⟩, []⟩
      (twoPages (.complete 0 (pageResponse "A")) (.complete 1 (pageResponse "B"))) = some s ∧
      s.loads = [⟨0, some (some ⟨none, some [⟨some "A", none, none⟩]⟩)⟩,
        ⟨10, some (some ⟨none, some [⟨some "B", none, none⟩]⟩)⟩] := ⟨_, rfl, by decide⟩
  have hdone : ∀ load ∈ s.loads, ∃ object, load.result = some (some object) := by simp [hloads]
  have hlast : s.loads.getLast? = some ⟨10, some (some ⟨none, some [⟨some "B", none, none⟩]⟩)⟩ := by
    rw [hloads]; rfl
  refine ⟨s, hrun, (last_page_iff decodePage ⟨none, false⟩ hrun hdone hlast).2 ?_⟩
  rw [hloads]
  exact ⟨1, by decide, _, rfl, rfl⟩

/-- **The page that was asked for first is served**, since its request completes last. -/
theorem first_page_served : ∃ s, run (NewsLoads.step decodePage) ⟨⟨none, false⟩, []⟩
      (twoPages (.complete 1 (pageResponse "B")) (.complete 0 (pageResponse "A"))) = some s ∧
    s.loads[1]? = some ⟨10, some (some ⟨none, some [⟨some "B", none, none⟩]⟩)⟩ ∧
    ¬ s.viewModel.Serves (some [⟨some "B", none, none⟩]) := by
  refine ⟨_, rfl, by decide, fun h => ?_⟩
  have hrecord := h.record (0, 0)
  revert hrecord
  decide

end News

end ArtExhibition
