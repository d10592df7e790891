import Mathlib.Data.List.Basic
import Mathlib.Data.List.Perm.Basic
import Mathlib.Tactic.Common

/-!
# Numbered records

A system that starts tasks, requests or operations keeps their records in a list; the
number of a record is its position, and an event about it replaces it (`List.set`) or
adds a new one at the end. These lemmas say what such a step does to a property of all
records.
-/

namespace Machine

variable {α β : Type*} {l : List α} {i : ℕ} {a b : α}

theorem mem_of_slot (h : l[i]? = some a) : a ∈ l := List.mem_of_getElem? h

/-- Every record after a replacement is the new one or an old one. -/
theorem forall_mem_set_of {P : α → Prop} (h : ∀ x ∈ l, P x) (hb : P b) : ∀ x ∈ l.set i b, P x := by
  intro x hx
  rcases List.mem_or_eq_of_mem_set hx with hx | rfl
  · exact h x hx
  · exact hb

theorem forall_mem_snoc_iff {P : α → Prop} :
    (∀ x ∈ l ++ [b], P x) ↔ (∀ x ∈ l, P x) ∧ P b := by
  simp [List.mem_append, or_imp, forall_and]

/-- **Replacing a record that has the property** by one that may not have it. -/
theorem forall_mem_set_iff {P : α → Prop} (h : l[i]? = some a) (ha : P a) :
    (∀ x ∈ l.set i b, P x) ↔ (∀ x ∈ l, P x) ∧ P b := by
  constructor
  · intro hs
    have hi := (List.getElem?_eq_some_iff.1 h).1
    refine ⟨fun x hx => ?_, hs b (List.mem_set hi b)⟩
    obtain ⟨j, hj, rfl⟩ := List.mem_iff_getElem.1 hx
    by_cases hij : i = j
    · subst hij
      rw [List.getElem?_eq_some_iff] at h
      obtain ⟨_, h⟩ := h
      rw [h]; exact ha
    · exact hs _ (List.mem_iff_getElem.2 ⟨j, by simpa using hj, by simp [hij]⟩)
  · rintro ⟨hl, hb⟩; exact forall_mem_set_of hl hb

/-- Changing a record by `f`, when `f` never gives it the property. -/
theorem forall_mem_modify_iff {P : α → Prop} {f : α → α} (hf : ∀ x, P (f x) → P x) :
    (∀ x ∈ l.modify i f, P x) ↔ (∀ x ∈ l, P x) ∧ ∀ a ∈ l[i]?, P (f a) := by
  constructor
  · intro h
    refine ⟨fun x hx => ?_, fun a ha => h _ ?_⟩
    · obtain ⟨j, hj⟩ := List.mem_iff_getElem?.1 hx
      have hmem : (if i = j then f x else x) ∈ l.modify i f :=
        List.mem_iff_getElem?.2 ⟨j, by simp [List.getElem?_modify, hj]⟩
      have hP := h _ hmem
      split at hP
      · exact hf x hP
      · exact hP
    · exact List.mem_iff_getElem?.2 ⟨i, by simp [Option.mem_def.1 ha]⟩
  · rintro ⟨hl, hfa⟩ x hx
    obtain ⟨j, hj⟩ := List.mem_iff_getElem?.1 hx
    rw [List.getElem?_modify, Option.map_eq_map, Option.map_eq_some_iff] at hj
    obtain ⟨y, hy, rfl⟩ := hj
    split
    · rename_i hij; subst hij; exact hfa y hy
    · exact hl y (List.mem_iff_getElem?.2 ⟨j, hy⟩)

/-- The records before and after the one with number `i`. -/
theorem exists_split_of_slot (h : l[i]? = some a) :
    ∃ l₁ l₂, l = l₁ ++ a :: l₂ ∧ ∀ b, l.set i b = l₁ ++ b :: l₂ := by
  obtain ⟨hi, rfl⟩ := List.getElem?_eq_some_iff.1 h
  refine ⟨l.take i, l.drop (i + 1), ?_, fun b => by rw [List.set_eq_take_append_cons_drop, if_pos hi]⟩
  rw [← List.drop_eq_getElem_cons hi, List.take_append_drop]

/-- Some record after a replacement has the property: another one, or the new one. -/
theorem exists_mem_set_iff {P : α → Prop} (h : l[i]? = some a) :
    (∃ x ∈ l.set i b, P x) ↔ (∃ x ∈ l.eraseIdx i, P x) ∨ P b := by
  induction l generalizing i with
  | nil => simp at h
  | cons y l ih =>
    cases i with
    | zero => simp [or_comm]
    | succ i =>
      have hl : l[i]? = some a := by simpa using h
      simp [ih hl, or_assoc]

theorem exists_mem_iff_of_slot {P : α → Prop} (h : l[i]? = some a) :
    (∃ x ∈ l, P x) ↔ (∃ x ∈ l.eraseIdx i, P x) ∨ P a := by
  have hset : l.set i a = l := by
    obtain ⟨hi, rfl⟩ := List.getElem?_eq_some_iff.1 h
    exact List.set_getElem_self hi
  rw [← exists_mem_set_iff h, hset]

theorem filterMap_set_same {f : α → Option β} (h : l[i]? = some a) (hf : f b = f a) :
    (l.set i b).filterMap f = l.filterMap f := by
  obtain ⟨l₁, l₂, rfl, hset⟩ := exists_split_of_slot h
  rw [hset, List.filterMap_append, List.filterMap_append, List.filterMap_cons, List.filterMap_cons, hf]

/-- A record that starts to count. -/
theorem filterMap_set_perm {f : α → Option β} {c : β} (h : l[i]? = some a) (ha : f a = none)
    (hb : f b = some c) : ((l.set i b).filterMap f).Perm (l.filterMap f ++ [c]) := by
  obtain ⟨l₁, l₂, rfl, hset⟩ := exists_split_of_slot h
  rw [hset, List.filterMap_append, List.filterMap_append, List.filterMap_cons_none ha,
    List.filterMap_cons_some hb]
  exact List.perm_middle.trans (List.perm_append_singleton c _).symm

end Machine
