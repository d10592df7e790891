import Mathlib.Tactic.Common

/-!
# A value and what shows it

One thread writes a value and announces each write; an announcement queues refreshes, and a
refresh, run later by another thread, shows the value as it is then. Between a write and its
announcement anything may happen. A writer may also herald a write before it stores the value; the
refresh that this queues may then run too early.

* `current_announce`, `current_refresh`, `current_write`: a mirror is `Current` when it shows the
  value, or a refresh or an announcement is still to come; every step but a lost announcement
  makes it so.
* `current_store_iff`: a heralded write keeps it so unless its refresh has run already.
* `shown_eq_of_quiet`: with nothing to come, a current mirror shows the value.
-/

namespace Machine

structure Mirror (α β : Type*) where
  value : α
  shown : β
  /-- writes that are not announced yet -/
  unannounced : ℕ
  /-- refreshes that are queued -/
  refreshes : ℕ
  deriving DecidableEq

namespace Mirror

variable {α β : Type*} {view : α → β} {m m' : Mirror α β}

/-- A write that is to be announced. -/
def write (a : α) (m : Mirror α β) : Mirror α β :=
  { m with value := a, unannounced := m.unannounced + 1 }

/-- An announcement that `listeners` hear. -/
def announce (listeners : ℕ) (m : Mirror α β) : Option (Mirror α β) :=
  if m.unannounced = 0 then none
  else some { m with unannounced := m.unannounced - 1, refreshes := m.refreshes + listeners }

def refresh (view : α → β) (m : Mirror α β) : Option (Mirror α β) :=
  if m.refreshes = 0 then none
  else some { m with shown := view m.value, refreshes := m.refreshes - 1 }

/-- The announcement of a write to come. -/
def herald (m : Mirror α β) : Mirror α β := { m with refreshes := m.refreshes + 1 }

/-- A write that was heralded. -/
def store (a : α) (m : Mirror α β) : Mirror α β := { m with value := a }

/-- It shows the value, or will be made to. -/
def Current (view : α → β) (m : Mirror α β) : Prop :=
  m.shown = view m.value ∨ 0 < m.unannounced ∨ 0 < m.refreshes

/-- Nothing is to come. -/
def Quiet (m : Mirror α β) : Prop := m.unannounced = 0 ∧ m.refreshes = 0

instance (m : Mirror α β) : Decidable m.Quiet := inferInstanceAs (Decidable (_ ∧ _))

theorem current_write (a : α) (m : Mirror α β) : (m.write a).Current view :=
  Or.inr (Or.inl (Nat.succ_pos _))

/-- An announcement that someone hears. -/
theorem current_announce {listeners : ℕ} (hlisteners : 0 < listeners) (h : m.announce listeners = some m') :
    m'.Current view := by
  unfold announce at h
  split at h
  · cases h
  · cases h
    refine Or.inr (Or.inr ?_)
    dsimp only
    omega

/-- What a refresh does. -/
theorem refresh_eq (h : m.refresh view = some m') :
    m'.value = m.value ∧ m'.shown = view m.value ∧ m'.unannounced = m.unannounced := by
  unfold refresh at h
  split at h
  · cases h
  · cases h
    exact ⟨rfl, rfl, rfl⟩

theorem current_refresh (h : m.refresh view = some m') : m'.Current view := by
  obtain ⟨hvalue, hshown, -⟩ := refresh_eq h
  exact Or.inl (by rw [hshown, hvalue])

theorem current_herald (m : Mirror α β) : m.herald.Current view := Or.inr (Or.inr (Nat.succ_pos _))

/-- A value that is stored with nothing to come has to be shown already. -/
theorem current_store_iff (a : α) (m : Mirror α β) :
    (m.store a).Current view ↔ m.Quiet → m.shown = view a := by
  unfold Current Quiet store
  dsimp only
  constructor
  · rintro (hshown | hsome | hsome) ⟨hannounced, hrefreshed⟩
    · exact hshown
    · omega
    · omega
  · intro h
    by_cases hquiet : m.unannounced = 0 ∧ m.refreshes = 0
    · exact Or.inl (h hquiet)
    · omega

/-- **With nothing to come**, a current mirror shows the value. -/
theorem shown_eq_of_quiet (h : m.Current view) (hquiet : m.Quiet) : m.shown = view m.value := by
  obtain ⟨hannounced, hrefreshed⟩ := hquiet
  rcases h with hshown | hsome | hsome
  · exact hshown
  · omega
  · omega

end Mirror

end Machine
