import ArtExhibition.Machine.Run
import ArtExhibition.Spec.UserInformation

/-!
# Which calls of the user store are atomic

`UserStore.Atomic` says of a call what a caller may expect of its result: a `save` that returns
false changes nothing that a fetch shows, one that returns true adds its one row, and after a
`delete` that returns true there are no rows.

* `atomic_call_iff`: a call is atomic exactly when it meets `UserStore.AtomicWhen`: a `save`
  whose context is saved, with nothing pending before; a `delete` that fails, or finds nothing
  pending.
* `atomic_iff`: from a launch, all calls of a sequence are atomic exactly when no `save` has its
  context's save throw.
* `failed_save_stays`: the row of a failed `save` is fetched afterwards, and a `delete` that
  succeeds persists it.
-/

namespace ArtExhibition

open Machine

variable {store : UserStore} {user : User} {saveThrows : Bool} {faults : DeleteFaults}

/-- **What a caller expects of a call.** -/
def UserStore.Atomic (store : UserStore) : UserStoreCall → Prop
  | .fetch => (store.after .fetch).fetch = store.fetch
  | .save user saveThrows =>
    ((store.save user saveThrows).1 = false → (store.save user saveThrows).2.fetch = store.fetch) ∧
      ((store.save user saveThrows).1 = true →
        (store.save user saveThrows).2.fetch.Perm (user :: store.fetch) ∧
          (store.save user saveThrows).2.persisted = store.persisted ++ [user])
  | .delete faults => (store.delete faults).1 = true → (store.delete faults).2.fetch = []

/-- When a call is atomic. -/
def UserStore.AtomicWhen (store : UserStore) : UserStoreCall → Prop
  | .fetch => True
  | .save _ saveThrows => saveThrows = false ∧ store.pending = []
  | .delete faults => faults = ⟨false, false, false⟩ → store.pending = []

/-! ## What a fetch returns -/

/-- A fetch returns the persisted rows and the pending ones. -/
theorem fetch_perm (store : UserStore) : store.fetch.Perm (store.persisted ++ store.pending) :=
  List.perm_insertionSort _ _

theorem fetch_eq_nil_iff (store : UserStore) :
    store.fetch = [] ↔ store.persisted = [] ∧ store.pending = [] := by
  constructor
  · intro h
    have hrows := fetch_perm store
    rw [h] at hrows
    exact List.append_eq_nil_iff.1 hrows.nil_eq.symm
  · rintro ⟨hpersisted, hpending⟩
    unfold UserStore.fetch
    rw [hpersisted, hpending]
    rfl

/-- A `save`, failed or not, adds its row to what a fetch returns. -/
theorem fetch_save_perm (store : UserStore) (user : User) (saveThrows : Bool) :
    (store.save user saveThrows).2.fetch.Perm (user :: store.fetch) := by
  have hrows : (store.save user saveThrows).2.persisted ++ (store.save user saveThrows).2.pending =
      (store.persisted ++ store.pending) ++ [user] := by
    cases saveThrows <;> simp [UserStore.save]
  have hafter := fetch_perm (store.save user saveThrows).2
  rw [hrows] at hafter
  exact hafter.trans ((List.perm_append_singleton _ _).trans ((fetch_perm store).symm.cons user))

/-- So a failed `save` is never without a trace. -/
theorem fetch_save_ne (store : UserStore) (user : User) (saveThrows : Bool) :
    (store.save user saveThrows).2.fetch ≠ store.fetch := by
  intro h
  have hlen := (fetch_save_perm store user saveThrows).length_eq
  rw [h, List.length_cons] at hlen
  omega

/-- A `delete` returns true exactly when nothing throws in it. -/
theorem delete_eq_true_iff : (store.delete faults).1 = true ↔ faults = ⟨false, false, false⟩ := by
  obtain ⟨executeThrows, saveThrows, performFetchThrows⟩ := faults
  cases executeThrows <;> cases saveThrows <;> cases performFetchThrows <;> simp [UserStore.delete]

/-! ## One call -/

theorem atomic_save_iff :
    store.Atomic (.save user saveThrows) ↔ store.AtomicWhen (.save user saveThrows) := by
  cases saveThrows with
  | true =>
    have hfalse : ¬ store.Atomic (.save user true) := fun h => fetch_save_ne store user true (h.1 rfl)
    simp [UserStore.AtomicWhen, hfalse]
  | false =>
    have hpersisted : (store.save user false).2.persisted = store.persisted ++ [user] ↔
        store.pending = [] := by
      change store.persisted ++ (store.pending ++ [user]) = _ ↔ _
      rw [List.append_cancel_left_eq]
      exact List.append_left_eq_self
    constructor
    · intro h
      exact ⟨rfl, hpersisted.1 (h.2 rfl).2⟩
    · rintro ⟨-, hpending⟩
      refine ⟨fun h => (by cases h), fun _ => ⟨fetch_save_perm store user false, ?_⟩⟩
      exact hpersisted.2 hpending

theorem atomic_delete_iff : store.Atomic (.delete faults) ↔ store.AtomicWhen (.delete faults) := by
  change ((store.delete faults).1 = true → _) ↔ (faults = _ → _)
  rw [delete_eq_true_iff]
  refine forall_congr' fun h => ?_
  subst h
  -- the save after the batch request has persisted what was pending
  rw [fetch_eq_nil_iff]
  exact and_iff_left rfl

/-- **A call is atomic exactly when it meets its condition.** -/
theorem atomic_call_iff (store : UserStore) (call : UserStoreCall) :
    store.Atomic call ↔ store.AtomicWhen call := by
  cases call with
  | fetch => exact iff_of_true rfl trivial
  | save user saveThrows => exact atomic_save_iff
  | delete faults => exact atomic_delete_iff

/-! ## Sequences of calls -/

/-- The context's save does not throw in a `save`. -/
def UserStoreCall.Saves : UserStoreCall → Prop
  | .save _ saveThrows => saveThrows = false
  | .fetch | .delete _ => True

/-- Calls that save leave nothing pending. -/
theorem pending_after {call : UserStoreCall} (h : store.pending = []) (hsaves : call.Saves) :
    (store.after call).pending = [] := by
  cases call with
  | fetch => exact h
  | save user saveThrows =>
    obtain rfl : saveThrows = false := hsaves
    rfl
  | delete faults =>
    simp only [UserStore.after, UserStore.delete]
    split
    · exact h
    · split
      · exact h
      · rfl

theorem atomicWhen_iff_saves (h : store.pending = []) (call : UserStoreCall) :
    store.AtomicWhen call ↔ call.Saves := by
  cases call with
  | fetch => exact Iff.rfl
  | save user saveThrows => exact and_iff_left h
  | delete faults => exact iff_of_true (fun _ => h) trivial

/-- **All calls of a sequence are atomic exactly when no `save` fails.** From a launch: any
persisted rows, nothing pending. -/
theorem atomic_iff (persisted : List User) (calls : List UserStoreCall) :
    Along UserStore.step UserStore.Atomic ⟨persisted, []⟩ calls ↔ ∀ call ∈ calls, call.Saves := by
  refine along_iff_forall_mem (I := fun store => store.pending = []) (fun _ _ => rfl) ?_ ?_ calls rfl
  · intro store call hpending hsaves
    exact pending_after hpending hsaves
  · intro store call hpending
    rw [atomic_call_iff, atomicWhen_iff_saves hpending]

/-- **A failed `save` is not forgotten.** Over an empty store: its row is fetched, and a `delete`
that returns true leaves it behind, persisted. -/
theorem failed_save_stays :
    let ann : User := ⟨some "ann", none, some "ann@art", none⟩
    let failed := (UserStore.mk [] []).save ann true
    let deleted := failed.2.delete ⟨false, false, false⟩
    ¬ Along UserStore.step UserStore.Atomic ⟨[], []⟩ [.save ann true] ∧
      failed.1 = false ∧ failed.2.fetch = [ann] ∧
      deleted.1 = true ∧ deleted.2.fetch = [ann] ∧ deleted.2.persisted = [ann] := by
  refine ⟨fun h => ?_, rfl, rfl, rfl, rfl, rfl⟩
  have hfetch : [_] = [] := h.1.1 rfl
  cases hfetch

end ArtExhibition
