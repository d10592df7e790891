import ArtExhibition.Machine.Run
import ArtExhibition.Machine.Slots
import ArtExhibition.Spec.Router

/-!
# What the router sends

Every call starts the task it awaits, so when all calls have ended the requests sent are
those built (`transfers_perm`) and, besides, those of the data tasks that were resumed. A
call resumes one as soon as its own transfer has arrived, so each success sends a request
again (`request_sent_twice`).

`sent_once_iff`: when all calls have returned or thrown, each built request was sent exactly
once iff no call whose transfer arrived found a data task to resume that had not been
cancelled (`ResumesNothing`); without `cancel`, iff no transfer succeeded.
-/

namespace ArtExhibition

open Machine

variable {Route Request : Type} {buildRequest : Route → Option Request}

/-- The request that `buildRequest` returned to the call. -/
def CallPhase.request : CallPhase Route Request → Option Request
  | .built request | .stored request | .awaiting request | .arrived request | .returned request
  | .threw request => some request
  | .called _ | .refused => none

/-- The request of the transfer that the call has started. -/
def CallPhase.transfer : CallPhase Route Request → Option Request
  | .awaiting request | .arrived request | .returned request | .threw request => some request
  | .called _ | .built _ | .stored _ | .refused => none

/-- The call has returned or thrown. -/
def CallPhase.settled : CallPhase Route Request → Bool
  | .returned _ | .threw _ | .refused => true
  | _ => false

def CallPhase.hasArrived : CallPhase Route Request → Bool
  | .arrived _ => true
  | _ => false

/-- The transfers are those of the calls. -/
def RouterState.Transferred (s : RouterState Route Request) : Prop :=
  (s.transfers.map (·.request)).Perm (s.calls.filterMap (·.phase.transfer))

/-- No data task has gone out. -/
def RouterState.Quiet (s : RouterState Route Request) : Prop := ∀ t ∈ s.dataTasks, t.started = false

/-- The condition on a step: a call whose transfer has arrived finds no stored data task, or
a cancelled one. -/
def ResumesNothing (s : RouterState Route Request) : RouterEvent Route → Prop
  | .advance i => ∀ c ∈ s.calls[i]?, c.phase.hasArrived → ∀ j ∈ s.task, ∀ t ∈ s.dataTasks[j]?, t.cancelled
  | _ => True

instance (s : RouterState Route Request) : ∀ e : RouterEvent Route, Decidable (ResumesNothing s e)
  | .advance i => inferInstanceAs (Decidable (∀ c ∈ s.calls[i]?, c.phase.hasArrived →
      ∀ j ∈ s.task, ∀ t ∈ s.dataTasks[j]?, t.cancelled))
  | .call .. | .network .. | .cancel => .isTrue trivial

theorem setPhase_transferred {s : RouterState Route Request} {i : ℕ} {c : RouterCall Route Request}
    {phase : CallPhase Route Request} (hi : s.calls[i]? = some c) (hp : phase.transfer = c.phase.transfer)
    (h : s.Transferred) : (s.setPhase i c phase).Transferred := by
  unfold RouterState.Transferred RouterState.setPhase
  rw [filterMap_set_same hi hp]
  exact h

@[simp] theorem resumeTask_calls (s : RouterState Route Request) : s.resumeTask.calls = s.calls := by
  unfold RouterState.resumeTask; split <;> rfl

@[simp] theorem resumeTask_transfers (s : RouterState Route Request) :
    s.resumeTask.transfers = s.transfers := by
  unfold RouterState.resumeTask; split <;> rfl

/-- **What one statement of a call does.** -/
theorem advance_cases {s s' : RouterState Route Request} {i : ℕ} {c : RouterCall Route Request}
    (h : s.advance buildRequest i c = some s') :
    (∃ phase, phase.transfer = c.phase.transfer ∧ c.phase.hasArrived = false ∧
        s' = s.setPhase i c phase) ∨
      (∃ request, c.phase = .built request ∧
        s' = { s.setPhase i c (.stored request) with
          task := some s.dataTasks.length
          dataTasks := s.dataTasks ++ [⟨request, false, false⟩] }) ∨
      (∃ request, c.phase = .stored request ∧
        s' = { s.setPhase i c (.awaiting request) with
          transfers := s.transfers ++ [⟨c.method.awaits, request, false⟩] }) ∨
      ∃ request, c.phase = .arrived request ∧ s' = s.resumeTask.setPhase i c (.returned request) := by
  obtain ⟨method, phase⟩ := c
  cases phase with
  | called route =>
    simp only [RouterState.advance] at h
    split at h
    · rename_i request _
      exact .inl ⟨.built request, rfl, rfl, (Option.some.inj h).symm⟩
    · exact .inl ⟨.refused, rfl, rfl, (Option.some.inj h).symm⟩
  | built request => exact .inr (.inl ⟨request, rfl, (Option.some.inj h).symm⟩)
  | stored request => exact .inr (.inr (.inl ⟨request, rfl, (Option.some.inj h).symm⟩))
  | arrived request => exact .inr (.inr (.inr ⟨request, rfl, (Option.some.inj h).symm⟩))
  | _ => cases h

theorem network_cases {s s' : RouterState Route Request} {i : ℕ} {succeeds : Bool}
    (h : s.step buildRequest (.network i succeeds) = some s') :
    ∃ c phase, s.calls[i]? = some c ∧ phase.transfer = c.phase.transfer ∧ s' = s.setPhase i c phase := by
  simp only [RouterState.step] at h
  split at h
  · rename_i method request hi
    refine ⟨_, _, hi, ?_, (Option.some.inj h).symm⟩
    cases succeeds <;> rfl
  · cases h

/-- **One step keeps the transfers those of the calls.** -/
theorem step_transferred (s : RouterState Route Request) (e : RouterEvent Route)
    (s' : RouterState Route Request) (h : s.Transferred) (hs : s.step buildRequest e = some s') :
    s'.Transferred := by
  cases e with
  | call method route =>
    obtain rfl := Option.some.inj hs
    simpa [RouterState.Transferred, CallPhase.transfer, List.filterMap_append] using h
  | advance i =>
    obtain ⟨c, hi, hs⟩ := Option.bind_eq_some_iff.1 hs
    rcases advance_cases hs with ⟨phase, hp, -, rfl⟩ | ⟨request, hp, rfl⟩ | ⟨request, hp, rfl⟩ |
      ⟨request, hp, rfl⟩
    · exact setPhase_transferred hi hp h
    · exact setPhase_transferred hi (by rw [hp]; rfl) h
    · -- the call starts its transfer
      have hset := filterMap_set_perm (f := fun c : RouterCall Route Request => c.phase.transfer)
        (b := { c with phase := .awaiting request }) hi (by rw [hp]; rfl) rfl
      show ((s.transfers ++ [_]).map _).Perm _
      rw [List.map_append]
      exact (h.append_right _).trans hset.symm
    · refine setPhase_transferred (by simpa using hi) (by rw [hp]; rfl) ?_
      simpa [RouterState.Transferred] using h
  | network i succeeds =>
    obtain ⟨c, phase, hi, hp, rfl⟩ := network_cases hs
    exact setPhase_transferred hi hp h
  | cancel =>
    obtain rfl := Option.some.inj hs
    unfold RouterState.cancel
    split <;> exact h

/-- Resuming the stored task lets nothing out exactly when it is cancelled. -/
theorem resumeTask_quiet_iff (s : RouterState Route Request) :
    s.resumeTask.Quiet ↔ s.Quiet ∧ ∀ j ∈ s.task, ∀ t ∈ s.dataTasks[j]?, t.cancelled := by
  unfold RouterState.resumeTask RouterState.Quiet
  cases s.task with
  | none => simp
  | some j =>
    dsimp only
    rw [forall_mem_modify_iff (by simp +contextual [DataTask.resume])]
    simp only [DataTask.resume, Option.mem_def, Option.some.injEq, forall_eq', Bool.or_eq_false_iff,
      Bool.not_eq_eq_eq_not, Bool.not_false]
    exact and_congr_right fun hq =>
      ⟨fun h t ht => (h t ht).2, fun h t ht => ⟨hq t (mem_of_slot ht), h t ht⟩⟩

/-- **One step lets a data task out exactly when it breaks the condition.** -/
theorem step_quiet_iff (s : RouterState Route Request) (e : RouterEvent Route)
    (s' : RouterState Route Request) (hs : s.step buildRequest e = some s') :
    s'.Quiet ↔ s.Quiet ∧ ResumesNothing s e := by
  cases e with
  | call method route =>
    obtain rfl := Option.some.inj hs
    simp [RouterState.Quiet, ResumesNothing]
  | advance i =>
    obtain ⟨c, hi, hs⟩ := Option.bind_eq_some_iff.1 hs
    simp only [ResumesNothing, hi, Option.mem_def, Option.some.injEq, forall_eq']
    rcases advance_cases hs with ⟨phase, -, ha, rfl⟩ | ⟨request, hp, rfl⟩ | ⟨request, hp, rfl⟩ |
      ⟨request, hp, rfl⟩
    · simp [RouterState.Quiet, RouterState.setPhase, ha]
    · simp only [RouterState.Quiet, forall_mem_snoc_iff, hp, CallPhase.hasArrived]
      simp
    · simp [RouterState.Quiet, RouterState.setPhase, hp, CallPhase.hasArrived]
    · have hquiet := resumeTask_quiet_iff s
      simpa [RouterState.Quiet, RouterState.setPhase, hp, CallPhase.hasArrived] using hquiet
  | network i succeeds =>
    obtain ⟨c, phase, -, -, rfl⟩ := network_cases hs
    simp [RouterState.Quiet, RouterState.setPhase, ResumesNothing]
  | cancel =>
    obtain rfl := Option.some.inj hs
    unfold RouterState.cancel RouterState.Quiet
    cases s.task with
    | none => simp [ResumesNothing]
    | some j =>
      dsimp only
      have hcancel : ∀ t : DataTask Request, ({ t with cancelled := true } : DataTask Request).started = false →
          t.started = false := fun _ h => h
      rw [forall_mem_modify_iff hcancel]
      simp only [ResumesNothing, and_true]
      exact and_iff_left_of_imp fun h t ht => h t (mem_of_slot ht)

/-- When all calls have ended, every built request has its transfer. -/
theorem transfers_perm {s : RouterState Route Request} (h : s.Transferred)
    (hs : ∀ c ∈ s.calls, c.phase.settled) :
    (s.transfers.map (·.request)).Perm (s.calls.filterMap (·.phase.request)) := by
  have heq : s.calls.filterMap (·.phase.transfer) = s.calls.filterMap (·.phase.request) := by
    refine List.filterMap_congr fun c hc => ?_
    have hsettled := hs c hc
    revert hsettled
    cases c.phase <;> simp [CallPhase.settled, CallPhase.transfer, CallPhase.request]
  exact heq ▸ h

/-- **Each built request is sent exactly once, exactly when no call resumes a data task.**
For every run on one router, of any calls, that leaves no call unfinished. -/
theorem sent_once_iff (buildRequest : Route → Option Request) {es : List (RouterEvent Route)}
    {s : RouterState Route Request} (h : run (RouterState.step buildRequest) .launch es = some s)
    (hs : ∀ c ∈ s.calls, c.phase.settled) :
    s.sent.Perm (s.calls.filterMap (·.phase.request)) ↔
      Along (RouterState.step buildRequest) ResumesNothing .launch es := by
  have htransferred : s.Transferred :=
    run_inv step_transferred es (by simp [RouterState.Transferred, RouterState.launch]) h
  have hquiet : s.Quiet ↔ Along (RouterState.step buildRequest) ResumesNothing .launch es := by
    rw [holds_iff_along (I := fun _ => True) (fun _ _ _ _ _ => trivial)
      (fun s e s' _ => step_quiet_iff s e s') es trivial h]
    simp [RouterState.Quiet, RouterState.launch]
  rw [← hquiet]
  have hperm := transfers_perm htransferred hs
  unfold RouterState.sent
  constructor
  · -- the transfers are already as many as the requests built, so nothing else went out
    intro hsent t ht
    have hlen := (hsent.trans hperm.symm).length_eq
    have hnil : s.dataTasks.filter (·.started) = [] := by
      rw [List.length_append, Nat.add_eq_left, List.length_map] at hlen
      exact List.eq_nil_of_length_eq_zero hlen
    simpa using List.filter_eq_nil_iff.1 hnil t ht
  · intro hq
    have hnil : s.dataTasks.filter (·.started) = [] :=
      List.filter_eq_nil_iff.2 fun t ht => by simp [hq t ht]
    rw [hnil, List.map_nil, List.append_nil]
    exact hperm

/-- A request that fails, an upload that cannot be built, and a download whose data task is
cancelled before its transfer arrives. -/
def quietRun : List (RouterEvent ℕ) :=
  [.call .request 1, .call .upload 0, .advance 0, .advance 1, .advance 0, .advance 0,
    .network 0 false, .call .download 2, .advance 2, .advance 2, .advance 2, .cancel,
    .network 2 true, .advance 2]

theorem sent_once_quiet :
    ∃ s, run (RouterState.step fun route => if route = 0 then none else some route) .launch quietRun = some s ∧
      s.sent.Perm (s.calls.filterMap (·.phase.request)) := by
  obtain ⟨s, h, hs⟩ : ∃ s,
      run (RouterState.step fun route => if route = 0 then none else some route) .launch quietRun = some s ∧
        ∀ c ∈ s.calls, c.phase.settled := ⟨_, rfl, by decide⟩
  exact ⟨s, h, (sent_once_iff _ h hs).2 (by decide)⟩

/-- **A successful request goes out twice**: the transfer that `request` awaits, then the
data task that it resumes. -/
theorem request_sent_twice :
    ∃ s, run (RouterState.step some) .launch
        [.call .request 7, .advance 0, .advance 0, .advance 0, .network 0 true, .advance 0] = some s ∧
      (∀ c ∈ s.calls, c.phase.settled) ∧ s.sent = [7, 7] ∧
        s.calls.filterMap (·.phase.request) = [7] :=
  ⟨_, rfl, by decide, rfl, rfl⟩

end ArtExhibition
