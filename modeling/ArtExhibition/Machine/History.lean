import ArtExhibition.Machine.Run

/-!
# Systems with a history

What a step shows to the outside (a value read, a message, a post) is often not part of the
state. `recorded step shows` is the system with a record of it: its state has the list of all
that was shown, the latest last.

* `recorded_eq_some`: a recorded step is a step of the system that adds what it shows.
* `run_recorded`: a recorded run is a run of the system, with what its steps showed.
-/

namespace Machine

variable {S E O : Type*} {step : S → E → Option S} {shows : S → E → List O}

/-- A step with a record of what it shows. -/
def recorded (step : S → E → Option S) (shows : S → E → List O) (s : S × List O) (e : E) :
    Option (S × List O) :=
  (step s.1 e).map fun s' => (s', s.2 ++ shows s.1 e)

/-- What the steps of a run show. -/
def shown (step : S → E → Option S) (shows : S → E → List O) : S → List E → List O
  | _, [] => []
  | s, e :: es => shows s e ++ ((step s e).map fun s' => shown step shows s' es).getD []

theorem recorded_eq_some {s t : S × List O} {e : E} :
    recorded step shows s e = some t ↔ step s.1 e = some t.1 ∧ t.2 = s.2 ++ shows s.1 e := by
  rw [recorded, Option.map_eq_some_iff]
  constructor
  · rintro ⟨s', hs, rfl⟩
    exact ⟨hs, rfl⟩
  · rintro ⟨hs, ht⟩
    exact ⟨t.1, hs, by rw [← ht]⟩

/-- **A recorded run** is a run, with all that it showed added to the record. -/
theorem run_recorded {es : List E} :
    ∀ {s t : S × List O}, run (recorded step shows) s es = some t ↔
      run step s.1 es = some t.1 ∧ t.2 = s.2 ++ shown step shows s.1 es := by
  induction es with
  | nil =>
    intro s t
    simp only [run_nil, Option.some.injEq, shown, List.append_nil]
    rw [Prod.ext_iff, eq_comm (a := t.2)]
  | cons e es ih =>
    intro s t
    rw [run_cons, run_cons]
    constructor
    · rintro ⟨s', hs, hr⟩
      obtain ⟨hs, hrecord⟩ := recorded_eq_some.1 hs
      obtain ⟨hr, ht⟩ := ih.1 hr
      refine ⟨⟨s'.1, hs, hr⟩, ?_⟩
      rw [ht, hrecord, List.append_assoc, shown, hs]
      rfl
    · rintro ⟨⟨s', hs, hr⟩, ht⟩
      refine ⟨(s', s.2 ++ shows s.1 e), recorded_eq_some.2 ⟨hs, rfl⟩, ih.2 ⟨hr, ?_⟩⟩
      rw [ht, List.append_assoc, shown, hs]
      rfl

end Machine
