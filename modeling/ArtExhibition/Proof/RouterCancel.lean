import ArtExhibition.Machine.History
import ArtExhibition.Proof.Router

/-!
# What `cancel` reaches

`cancel` cancels the data task that the router stored, while a call awaits a transfer of its
own. The tasks are told apart by the call that made them (`RouterState.starts`, kept as a
record of the run). With the calls one at a time the stored task is the current call's
(`Current`), so `cancel` never reaches the awaited transfer, nor a task of an earlier call:
`cancel_misses_transfer`.
-/

namespace ArtExhibition

open Machine

variable {Route Request : Type} {buildRequest : Route → Option Request}

/-- A task of the session, by its number among the data tasks or the transfers. -/
inductive SessionTask
  | data (j : ℕ)
  | transfer (k : ℕ)
  deriving DecidableEq, Repr

/-- Whether a task has been cancelled; `none` for one that does not exist. -/
def RouterState.cancelled (s : RouterState Route Request) : SessionTask → Option Bool
  | .data j => s.dataTasks[j]?.map (·.cancelled)
  | .transfer k => s.transfers[k]?.map (·.cancelled)

/-- The task that a step makes, with the call that makes it. -/
def RouterState.starts (s : RouterState Route Request) : RouterEvent Route → List (ℕ × SessionTask)
  | .advance i =>
    match s.calls[i]?.map RouterCall.phase with
    | some (.built _) => [(i, .data s.dataTasks.length)]
    | some (.stored _) => [(i, .transfer s.transfers.length)]
    | _ => []
  | _ => []

/-- A router with the tasks made so far. -/
abbrev RouterRecord (Route Request : Type) := RouterState Route Request × List (ℕ × SessionTask)

/-- **One event, recorded.** -/
def routerStep (buildRequest : Route → Option Request) :
    RouterRecord Route Request → RouterEvent Route → Option (RouterRecord Route Request) :=
  recorded (RouterState.step buildRequest) RouterState.starts

/-- A call starts when the others have ended. -/
def OneAtATime (s : RouterRecord Route Request) : RouterEvent Route → Prop
  | .call .. => ∀ c ∈ s.1.calls, c.phase.settled
  | _ => True

instance (s : RouterRecord Route Request) : ∀ e : RouterEvent Route, Decidable (OneAtATime s e)
  | .call .. => inferInstanceAs (Decidable (∀ c ∈ s.1.calls, c.phase.settled = true))
  | .advance _ | .network .. | .cancel => .isTrue trivial

/-- The call's data task is stored and the call has not ended. -/
def CallPhase.hasTask : CallPhase Route Request → Bool
  | .stored _ | .awaiting _ | .arrived _ => true
  | _ => false

/-- The call's transfer has started and the call has not ended. -/
def CallPhase.inFlight : CallPhase Route Request → Bool
  | .awaiting _ | .arrived _ => true
  | _ => false

/-- What `cancel` is for: the transfer that call `i` awaits is cancelled, and the tasks of
earlier calls are as they were. -/
structure CancelsWork (s : RouterRecord Route Request) (i : ℕ) : Prop where
  awaited : ∀ k, (i, .transfer k) ∈ s.2 → s.1.cancel.cancelled (.transfer k) = some true
  earlier : ∀ j < i, ∀ task, (j, task) ∈ s.2 → s.1.cancel.cancelled task = s.1.cancelled task

/-- **The reachable states, one call at a time**: the last call alone may not have ended, the
router's task is the one it stored, and no two calls made one task. -/
structure Current (s : RouterRecord Route Request) : Prop where
  settled : ∀ i c, s.1.calls[i]? = some c → i + 1 < s.1.calls.length → c.phase.settled
  made : ∀ i j, (i, .data j) ∈ s.2 → j < s.1.dataTasks.length
  once : ∀ i i' j, (i, .data j) ∈ s.2 → (i', .data j) ∈ s.2 → i = i'
  started : ∀ i k, (i, .transfer k) ∈ s.2 → k < s.1.transfers.length
  stored : ∀ i c, s.1.calls[i]? = some c → c.phase.hasTask →
    ∃ j, s.1.task = some j ∧ (i, .data j) ∈ s.2
  awaited : ∀ i c, s.1.calls[i]? = some c → c.phase.inFlight → ∃ k, (i, .transfer k) ∈ s.2
  running : ∀ t ∈ s.1.transfers, t.cancelled = false

theorem launch_current : Current ((RouterState.launch : RouterState Route Request), []) :=
  ⟨nofun, nofun, nofun, nofun, nofun, nofun, nofun⟩

section Step

variable {s s' : RouterState Route Request} {owners owners' : List (ℕ × SessionTask)} {i : ℕ}
  {c c' : RouterCall Route Request}

theorem settled_idle {phase : CallPhase Route Request} (h : phase.settled) :
    phase.hasTask = false ∧ phase.inFlight = false := by
  cases phase <;> first | exact ⟨rfl, rfl⟩ | cases h

/-- A call that has not ended is the last. -/
theorem Current.last (h : Current (s, owners)) (hi : s.calls[i]? = some c)
    (hc : c.phase.settled = false) : i + 1 = s.calls.length := by
  have hlt := (List.getElem?_eq_some_iff.1 hi).1
  by_contra hne
  have := h.settled i c hi (by dsimp only; omega)
  rw [hc] at this
  cases this

/-- **A statement of the last call**: what it makes of the others is nothing. -/
theorem Current.set (h : Current (s, owners)) (hi : s.calls[i]? = some c)
    (hc : c.phase.settled = false) (calls : s'.calls = s.calls.set i c')
    (made : ∀ i j, (i, .data j) ∈ owners' → j < s'.dataTasks.length)
    (once : ∀ i i' j, (i, .data j) ∈ owners' → (i', .data j) ∈ owners' → i = i')
    (started : ∀ i k, (i, .transfer k) ∈ owners' → k < s'.transfers.length)
    (stored : c'.phase.hasTask → ∃ j, s'.task = some j ∧ (i, .data j) ∈ owners')
    (awaited : c'.phase.inFlight → ∃ k, (i, .transfer k) ∈ owners')
    (running : ∀ t ∈ s'.transfers, t.cancelled = false) : Current (s', owners') := by
  have last := h.last hi hc
  -- every other call has ended
  have others : ∀ i' d, s'.calls[i']? = some d → i' ≠ i → d.phase.settled := by
    intro i' d hd hne
    rw [calls, List.getElem?_set_ne (Ne.symm hne)] at hd
    have hlt := (List.getElem?_eq_some_iff.1 hd).1
    exact h.settled i' d hd (by dsimp only; omega)
  have own : ∀ d, s'.calls[i]? = some d → d = c' := by
    intro d hd
    rw [calls, List.getElem?_set_self (by omega)] at hd
    exact (Option.some.inj hd).symm
  refine ⟨?_, made, once, started, ?_, ?_, running⟩
  · intro i' d hd hlt
    refine others i' d hd ?_
    rintro rfl
    rw [calls, List.length_set] at hlt
    omega
  · intro i' d hd hp
    by_cases hne : i' = i
    · subst hne
      exact stored (own d hd ▸ hp)
    · rw [(settled_idle (others i' d hd hne)).1] at hp
      cases hp
  · intro i' d hd hp
    by_cases hne : i' = i
    · subst hne
      exact awaited (own d hd ▸ hp)
    · rw [(settled_idle (others i' d hd hne)).2] at hp
      cases hp

theorem made_snoc {n : ℕ} (made : ∀ i j, (i, .data j) ∈ owners → j < n) :
    ∀ i' j, (i', .data j) ∈ owners ++ [(i, .data n)] → j < n + 1 := by
  intro i' j hj
  rcases List.mem_append.mp hj with hj | hj
  · exact Nat.lt_succ_of_lt (made i' j hj)
  · cases List.mem_singleton.mp hj
    exact Nat.lt_succ_self _

/-- A new task's number is above those of the tasks there are. -/
theorem once_snoc {n : ℕ} (made : ∀ i j, (i, .data j) ∈ owners → j < n)
    (once : ∀ i i' j, (i, .data j) ∈ owners → (i', .data j) ∈ owners → i = i') :
    ∀ i₁ i₂ j, (i₁, .data j) ∈ owners ++ [(i, .data n)] → (i₂, .data j) ∈ owners ++ [(i, .data n)] →
      i₁ = i₂ := by
  intro i₁ i₂ j h₁ h₂
  rcases List.mem_append.mp h₁ with h₁ | h₁ <;> rcases List.mem_append.mp h₂ with h₂ | h₂
  · exact once i₁ i₂ j h₁ h₂
  · cases List.mem_singleton.mp h₂
    exact absurd (made i₁ _ h₁) (Nat.lt_irrefl _)
  · cases List.mem_singleton.mp h₁
    exact absurd (made i₂ _ h₂) (Nat.lt_irrefl _)
  · cases List.mem_singleton.mp h₁
    cases List.mem_singleton.mp h₂
    rfl

theorem advance_current (h : Current (s, owners)) (hi : s.calls[i]? = some c)
    (hs : s.advance buildRequest i c = some s') :
    Current (s', owners ++ s.starts (.advance i : RouterEvent Route)) := by
  obtain ⟨method, phase⟩ := c
  cases phase with
  | called route =>
    have none_made : s.starts (.advance i : RouterEvent Route) = [] := by
      simp [RouterState.starts, hi]
    rw [none_made, List.append_nil]
    simp only [RouterState.advance] at hs
    split at hs <;> cases hs
    · exact h.set hi rfl rfl h.made h.once h.started Bool.noConfusion Bool.noConfusion h.running
    · exact h.set hi rfl rfl h.made h.once h.started Bool.noConfusion Bool.noConfusion h.running
  | built request =>
    cases hs
    have made_one : s.starts (.advance i : RouterEvent Route) = [(i, .data s.dataTasks.length)] := by
      simp [RouterState.starts, hi]
    rw [made_one]
    refine h.set hi rfl rfl ?_ (once_snoc h.made h.once) ?_ (fun _ => ⟨_, rfl, by simp⟩) ?_ h.running
    · rw [List.length_append]
      exact made_snoc h.made
    · intro i' k hk
      rcases List.mem_append.mp hk with hk | hk
      · exact h.started i' k hk
      · cases List.mem_singleton.mp hk
    · exact Bool.noConfusion
  | stored request =>
    cases hs
    have made_one : s.starts (.advance i : RouterEvent Route) = [(i, .transfer s.transfers.length)] := by
      simp [RouterState.starts, hi]
    rw [made_one]
    have data_kept : ∀ i' j, (i', SessionTask.data j) ∈ owners ++ [(i, .transfer s.transfers.length)] →
        (i', .data j) ∈ owners := by
      intro i' j hj
      rcases List.mem_append.mp hj with hj | hj
      · exact hj
      · cases List.mem_singleton.mp hj
    obtain ⟨j, task, mine⟩ := h.stored i _ hi rfl
    refine h.set hi rfl rfl (fun i' j hj => h.made i' j (data_kept i' j hj))
      (fun i₁ i₂ j h₁ h₂ => h.once i₁ i₂ j (data_kept i₁ j h₁) (data_kept i₂ j h₂)) ?_
      (fun _ => ⟨j, task, List.mem_append_left _ mine⟩)
      (fun _ => ⟨_, List.mem_append_right _ (List.mem_singleton_self _)⟩)
      (forall_mem_snoc_iff.2 ⟨h.running, rfl⟩)
    intro i' k hk
    rw [List.length_append]
    rcases List.mem_append.mp hk with hk | hk
    · exact Nat.lt_succ_of_lt (h.started i' k hk)
    · cases List.mem_singleton.mp hk
      exact Nat.lt_succ_self _
  | arrived request =>
    cases hs
    have none_made : s.starts (.advance i : RouterEvent Route) = [] := by
      simp [RouterState.starts, hi]
    rw [none_made, List.append_nil]
    have tasks : s.resumeTask.dataTasks.length = s.dataTasks.length := by
      unfold RouterState.resumeTask
      split
      · rfl
      · exact List.length_modify ..
    refine h.set hi rfl (congrArg (List.set · i _) (resumeTask_calls s)) ?_ h.once ?_
      Bool.noConfusion Bool.noConfusion ?_
    · exact fun i' j hj => lt_of_lt_of_eq (h.made i' j hj) tasks.symm
    · exact fun i' k hk => lt_of_lt_of_eq (h.started i' k hk)
        (congrArg List.length (resumeTask_transfers s)).symm
    · exact fun t ht => h.running t (resumeTask_transfers s ▸ ht)
  | _ => cases hs

theorem network_current {succeeds : Bool} (h : Current (s, owners))
    (hs : s.step buildRequest (.network i succeeds) = some s') : Current (s', owners) := by
  simp only [RouterState.step] at hs
  split at hs
  · rename_i method request hi
    cases hs
    refine h.set hi rfl rfl h.made h.once h.started ?_ ?_ h.running
    · exact fun _ => h.stored i _ hi rfl
    · exact fun _ => h.awaited i _ hi rfl
  · cases hs

theorem length_cancel (s : RouterState Route Request) :
    s.cancel.dataTasks.length = s.dataTasks.length := by
  unfold RouterState.cancel
  split
  · rfl
  · exact List.length_modify ..

theorem cancel_frame (s : RouterState Route Request) :
    s.cancel.task = s.task ∧ s.cancel.transfers = s.transfers ∧ s.cancel.calls = s.calls := by
  unfold RouterState.cancel
  split <;> exact ⟨rfl, rfl, rfl⟩

/-- **One event keeps it**, when a call starts alone. -/
theorem routerStep_current (r : RouterRecord Route Request) (e : RouterEvent Route)
    (r' : RouterRecord Route Request) (h : Current r) (alone : OneAtATime r e)
    (hr : routerStep buildRequest r e = some r') : Current r' := by
  obtain ⟨s, owners⟩ := r
  obtain ⟨s', owners'⟩ := r'
  obtain ⟨hs, made⟩ := recorded_eq_some.1 hr
  clear hr
  dsimp only at hs made
  subst made
  cases e with
  | call method route =>
    cases hs
    simp only [RouterState.starts, List.append_nil]
    have new : ∀ (i : ℕ) (c : RouterCall Route Request),
        (s.calls ++ [⟨method, .called route⟩])[i]? = some c →
        s.calls[i]? = some c ∨ c.phase = .called route := by
      intro i c hc
      rw [List.getElem?_append] at hc
      split at hc
      · exact .inl hc
      · obtain rfl := List.mem_singleton.mp (List.mem_of_getElem? hc)
        exact .inr rfl
    refine ⟨?_, h.made, h.once, h.started, ?_, ?_, h.running⟩
    · intro i c hc hlt
      rw [List.length_append] at hlt
      rw [List.getElem?_append_left (by simpa using hlt)] at hc
      exact alone c (mem_of_slot hc)
    · intro i c hc hp
      rcases new i c hc with old | called
      · exact h.stored i c old hp
      · rw [called] at hp
        cases hp
    · intro i c hc hp
      rcases new i c hc with old | called
      · exact h.awaited i c old hp
      · rw [called] at hp
        cases hp
  | advance i =>
    obtain ⟨c, hi, hc⟩ := Option.bind_eq_some_iff.1 hs
    exact advance_current h hi hc
  | network i succeeds =>
    simp only [RouterState.starts, List.append_nil]
    exact network_current h hs
  | cancel =>
    cases hs
    obtain ⟨task, transfers, calls⟩ := cancel_frame s
    simp only [RouterState.starts, List.append_nil]
    refine ⟨?_, ?_, h.once, ?_, ?_, ?_, ?_⟩
    · simpa only [calls] using h.settled
    · simpa only [length_cancel] using h.made
    · simpa only [transfers] using h.started
    · simpa only [calls, task] using h.stored
    · simpa only [calls] using h.awaited
    · simpa only [transfers] using h.running

end Step

/-! ### Cancelling -/

section Cancel

variable {s : RouterRecord Route Request} {i : ℕ} {c : RouterCall Route Request}

/-- A cancel leaves every task but the stored one as it was. -/
theorem cancelled_cancel_of_ne {s : RouterState Route Request} {task : SessionTask}
    (h : ∀ j, s.task = some j → task ≠ .data j) : s.cancel.cancelled task = s.cancelled task := by
  unfold RouterState.cancel
  cases hj : s.task with
  | none => rfl
  | some j =>
    cases task with
    | transfer k => rfl
    | data j' =>
      have hne : j ≠ j' := fun same => h j hj (by rw [same])
      simp [RouterState.cancelled, hne]

/-- **The tasks of earlier calls stay**, and so does the awaited transfer. -/
theorem cancel_in_flight (h : Current s) (hi : s.1.calls[i]? = some c) (flight : c.phase.inFlight) :
    (∃ k, (i, .transfer k) ∈ s.2 ∧ s.1.cancel.cancelled (.transfer k) = some false) ∧
      ∀ j < i, ∀ task, (j, task) ∈ s.2 → s.1.cancel.cancelled task = s.1.cancelled task := by
  constructor
  · obtain ⟨k, hk⟩ := h.awaited i c hi flight
    refine ⟨k, hk, ?_⟩
    rw [cancelled_cancel_of_ne fun j _ same => by cases same]
    have hlt := h.started i k hk
    have := h.running _ (List.getElem_mem hlt)
    simp [RouterState.cancelled, hlt, this]
  · have hasTask : c.phase.hasTask := by
      revert flight
      cases c.phase <;> simp [CallPhase.inFlight, CallPhase.hasTask]
    obtain ⟨j₀, stored, mine⟩ := h.stored i c hi hasTask
    intro j hj task ht
    apply cancelled_cancel_of_ne
    rintro j₁ hj₁ rfl
    obtain rfl : j₀ = j₁ := Option.some.inj (stored.symm.trans hj₁)
    have := h.once i j j₀ mine ht
    omega

/-- **`cancel` never cancels the work in flight.** In every run of one call at a time, at every
point at which the transfer of a call has started: it is not cancelled after `cancel`, which
touches no task of an earlier call. -/
theorem cancel_misses_transfer {es : List (RouterEvent Route)}
    (h : run (routerStep buildRequest) (.launch, []) es = some s)
    (alone : Along (routerStep buildRequest) OneAtATime (.launch, []) es)
    (hi : s.1.calls[i]? = some c) (flight : c.phase.inFlight) :
    ¬ CancelsWork s i ∧
      (∃ k, (i, .transfer k) ∈ s.2 ∧ s.1.cancel.cancelled (.transfer k) = some false) ∧
      ∀ j < i, ∀ task, (j, task) ∈ s.2 → s.1.cancel.cancelled task = s.1.cancelled task := by
  have current : Current s := run_inv_along routerStep_current es launch_current h alone
  have missed := cancel_in_flight current hi flight
  refine ⟨fun work => ?_, missed⟩
  obtain ⟨k, hk, uncancelled⟩ := missed.1
  rw [work.awaited k hk] at uncancelled
  cases uncancelled

end Cancel

/-- A request that succeeds, then a download that is waiting for its transfer. -/
def downloadRun : List (RouterEvent ℕ) :=
  [.call .request 1, .advance 0, .advance 0, .advance 0, .network 0 true, .advance 0,
    .call .download 2, .advance 1, .advance 1, .advance 1]

theorem cancel_misses_transfer_download :
    ∃ s, run (routerStep some) (.launch, []) downloadRun = some s ∧ ¬ CancelsWork s 1 := by
  obtain ⟨s, h, c, hi, flight⟩ : ∃ s, run (routerStep some) (.launch, []) downloadRun = some s ∧
      ∃ c, s.1.calls[1]? = some c ∧ c.phase.inFlight := ⟨_, rfl, _, rfl, rfl⟩
  exact ⟨s, h, (cancel_misses_transfer h (by decide) hi flight).1⟩

/-- **The download goes on**: `cancel` leaves the transfer and cancels the download's data task,
which was never resumed. -/
theorem download_not_cancelled :
    ∃ s, run (routerStep some) (.launch, []) downloadRun = some s ∧
      (1, SessionTask.transfer 1) ∈ s.2 ∧ s.1.cancel.cancelled (.transfer 1) = some false ∧
      (1, SessionTask.data 1) ∈ s.2 ∧ s.1.cancel.cancelled (.data 1) = some true ∧
      ¬ CancelsWork s 1 := by
  refine ⟨_, rfl, by decide, rfl, by decide, rfl, fun work => ?_⟩
  cases work.awaited 1 (by decide)

end ArtExhibition
