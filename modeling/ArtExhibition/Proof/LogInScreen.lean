import ArtExhibition.Machine.Slots
import ArtExhibition.Spec.LogInScreen

/-!
# What a sign-in request is for

Each request comes from a task, and a task from a tap or from an evaluation: its `Purpose`.
A tap that passed its checks earns one request, and an evaluation that found a stored
password earns one; nothing else does.

`OnPurpose` says that no purpose has two requests and that each has earned its own, and
`onlyOnPurpose` counts the requests of such a screen. A run ends on purpose exactly when
its tasks were `Purposeful`: of the two tasks that a tap starts, at most one finds an
e-mail and a password, and none if the tap was refused.
-/

namespace ArtExhibition

open Machine

inductive Purpose
  | tap (tap : ℕ)
  | evaluation (i : ℕ)
  deriving DecidableEq, Repr

def Origin.purpose : Origin → Purpose
  | .button tap | .passwordObserver tap => .tap tap
  | .rightFace i => .evaluation i

def LogInScreen.origins (s : LogInScreen) : List Origin := s.requests.map (·.origin)

def LogInScreen.purposes (s : LogInScreen) : List Purpose := s.origins.map Origin.purpose

/-- The tap passed its checks; the evaluation found a stored password. -/
def LogInScreen.Earned (s : LogInScreen) : Purpose → Prop
  | .tap tap => s.taps[tap]? = some true
  | .evaluation i => s.evaluations[i]? = some (.assigned true)

/-- Each request has a purpose of its own that has earned it. -/
def LogInScreen.OnPurpose (s : LogInScreen) : Prop :=
  s.purposes.Nodup ∧ ∀ purpose ∈ s.purposes, s.Earned purpose

/-- The requests as they are counted: over all, for a refused tap, for one tap. -/
structure LogInScreen.OnlyOnPurpose (s : LogInScreen) : Prop where
  total : s.requests.length ≤ s.taps.count true + s.evaluations.count (.assigned true)
  refused : ∀ tap, s.taps[tap]? ≠ some true → .tap tap ∉ s.purposes
  once : ∀ tap, s.purposes.count (.tap tap) ≤ 1

/-- The condition on a step: a task that finds an e-mail and a password is the first of its tap
to do so, and its tap passed the checks; or it comes from a password found by Face ID. -/
def Purposeful (s : LogInScreen) : LogInScreenEvent → Prop
  | .logInBasedOn (.button tap) =>
    s.email.isSome → s.password.isSome → .passwordObserver tap ∉ s.origins
  | .logInBasedOn (.passwordObserver tap) =>
    s.email.isSome → s.password.isSome → .button tap ∉ s.origins ∧ s.taps[tap]? = some true
  | .logInBasedOn (.rightFace i) =>
    s.email.isSome → s.password.isSome → s.evaluations[i]? = some (.assigned true)
  | _ => True

instance (s : LogInScreen) : ∀ e, Decidable (Purposeful s e)
  | .logInBasedOn (.button tap) => inferInstanceAs (Decidable
      (s.email.isSome → s.password.isSome → .passwordObserver tap ∉ s.origins))
  | .logInBasedOn (.passwordObserver tap) => inferInstanceAs (Decidable
      (s.email.isSome → s.password.isSome → .button tap ∉ s.origins ∧ s.taps[tap]? = some true))
  | .logInBasedOn (.rightFace i) => inferInstanceAs (Decidable
      (s.email.isSome → s.password.isSome → s.evaluations[i]? = some (.assigned true)))
  | .handleEventFromLogInButton .. | .handleEventFromFaceIdButton | .evaluate .. |
    .didValidRightFace .. | .fetchUserInCoreData _ => .isTrue trivial

/-! ## Counting the purposes -/

/-- The numbers of the records that are `a`. -/
theorem mem_findIdxs_iff {α : Type} [DecidableEq α] {l : List α} {a : α} {i : ℕ} :
    i ∈ l.findIdxs (· = a) ↔ l[i]? = some a := by
  rw [List.mem_findIdxs_iff_exists_getElem_pos, List.getElem?_eq_some_iff]
  simp

/-- All that has earned a request. -/
def LogInScreen.earnedPurposes (s : LogInScreen) : List Purpose :=
  (s.taps.findIdxs (· = true)).map .tap ++
    (s.evaluations.findIdxs (· = .assigned true)).map .evaluation

theorem mem_earnedPurposes {s : LogInScreen} {purpose : Purpose} (h : s.Earned purpose) :
    purpose ∈ s.earnedPurposes := by
  rw [LogInScreen.earnedPurposes, List.mem_append]
  cases purpose with
  | tap tap => exact .inl (List.mem_map_of_mem (mem_findIdxs_iff.2 h))
  | evaluation i => exact .inr (List.mem_map_of_mem (mem_findIdxs_iff.2 h))

theorem length_earnedPurposes (s : LogInScreen) :
    s.earnedPurposes.length = s.taps.count true + s.evaluations.count (.assigned true) := by
  rw [LogInScreen.earnedPurposes, List.length_append, List.length_map, List.length_map,
    List.length_findIdxs, List.length_findIdxs]
  rfl

/-- **Requests with purposes of their own are within the counts.** -/
theorem onlyOnPurpose {s : LogInScreen} (h : s.OnPurpose) : s.OnlyOnPurpose where
  total := by
    have hsub : s.purposes ⊆ s.earnedPurposes := fun p hp => mem_earnedPurposes (h.2 p hp)
    have hlen := h.1.length_le_of_subset hsub
    rw [length_earnedPurposes] at hlen
    simpa [LogInScreen.purposes, LogInScreen.origins] using hlen
  refused tap htap hmem := htap (h.2 _ hmem)
  once tap := List.nodup_iff_count_le_one.1 h.1 _

/-! ## What a step starts -/

/-- The task's tap or evaluation has got to the point where it started the task. -/
def LogInScreen.Knows (s : LogInScreen) : Origin → Prop
  | .button tap => s.taps[tap]? = some true
  | .passwordObserver tap => tap < s.taps.length
  | .rightFace i => ∃ passwordFound, s.evaluations[i]? = some (.assigned passwordFound)

/-- **The invariant**: every task is started once. -/
structure LogInScreen.Tracked (s : LogInScreen) : Prop where
  once : (s.tasks ++ s.origins).Nodup
  known : ∀ origin ∈ s.tasks ++ s.origins, s.Knows origin

/-- A step to `s'` that starts the tasks `started` and sends nothing. -/
structure LogInScreen.Starts (s s' : LogInScreen) (started : List Origin) : Prop where
  requests : s'.requests = s.requests
  tasks : s'.tasks = s.tasks ++ started
  taps : ∃ more, s'.taps = s.taps ++ more
  evaluations : ∀ (i : ℕ) (passwordFound : Bool),
    s.evaluations[i]? = some (Evaluation.assigned passwordFound) →
      s'.evaluations[i]? = some (Evaluation.assigned passwordFound)
  nodup : started.Nodup
  fresh : ∀ origin ∈ started, s'.Knows origin ∧ ¬ s.Knows origin

theorem LogInScreen.Starts.origins {s s' : LogInScreen} {started : List Origin}
    (h : s.Starts s' started) : s'.origins = s.origins := by
  rw [LogInScreen.origins, h.requests, LogInScreen.origins]

theorem LogInScreen.Starts.tap_iff {s s' : LogInScreen} {started : List Origin}
    (h : s.Starts s' started) {tap : ℕ} (htap : tap < s.taps.length) :
    s'.taps[tap]? = s.taps[tap]? := by
  obtain ⟨more, hmore⟩ := h.taps
  rw [hmore, List.getElem?_append_left htap]

theorem LogInScreen.Starts.knows {s s' : LogInScreen} {started : List Origin}
    (h : s.Starts s' started) {origin : Origin} (ho : s.Knows origin) : s'.Knows origin := by
  cases origin with
  | button tap =>
    have htap : tap < s.taps.length := (List.getElem?_eq_some_iff.1 ho).1
    exact (h.tap_iff htap).trans ho
  | passwordObserver tap =>
    obtain ⟨more, hmore⟩ := h.taps
    have hlen : s'.taps.length = s.taps.length + more.length := by rw [hmore, List.length_append]
    have htap : tap < s.taps.length := ho
    show tap < s'.taps.length
    omega
  | rightFace i =>
    obtain ⟨passwordFound, hi⟩ := ho
    exact ⟨passwordFound, h.evaluations i passwordFound hi⟩

/-- What a started task is for has earned its request or has not, and that stays. -/
theorem LogInScreen.Starts.earned_iff {s s' : LogInScreen} {started : List Origin}
    (h : s.Starts s' started) {origin : Origin} (ho : s.Knows origin) :
    s'.Earned origin.purpose ↔ s.Earned origin.purpose := by
  cases origin with
  | button tap =>
    have htap : tap < s.taps.length := (List.getElem?_eq_some_iff.1 ho).1
    show s'.taps[tap]? = some true ↔ s.taps[tap]? = some true
    rw [h.tap_iff htap]
  | passwordObserver tap =>
    show s'.taps[tap]? = some true ↔ s.taps[tap]? = some true
    rw [h.tap_iff ho]
  | rightFace i =>
    obtain ⟨passwordFound, hi⟩ := ho
    show s'.evaluations[i]? = _ ↔ s.evaluations[i]? = _
    rw [h.evaluations i passwordFound hi, hi]

theorem LogInScreen.Starts.tracked {s s' : LogInScreen} {started : List Origin}
    (h : s.Starts s' started) (ht : s.Tracked) : s'.Tracked := by
  have hperm : (s'.tasks ++ s'.origins).Perm (started ++ (s.tasks ++ s.origins)) := by
    rw [h.tasks, h.origins, List.append_assoc, ← List.append_assoc]
    rw [← List.append_assoc started]
    exact List.perm_append_comm.append_right _
  constructor
  · rw [hperm.nodup_iff, List.nodup_append]
    refine ⟨h.nodup, ht.once, ?_⟩
    -- a task that is started now was not known before
    rintro a ha _ hb rfl
    exact (h.fresh a ha).2 (ht.known a hb)
  · intro origin ho
    rcases List.mem_append.1 (hperm.mem_iff.1 ho) with ho | ho
    · exact (h.fresh origin ho).1
    · exact h.knows (ht.known origin ho)

theorem LogInScreen.Starts.onPurpose_iff {s s' : LogInScreen} {started : List Origin}
    (h : s.Starts s' started) (ht : s.Tracked) : s'.OnPurpose ↔ s.OnPurpose := by
  have hpurposes : s'.purposes = s.purposes := by
    rw [LogInScreen.purposes, h.origins, LogInScreen.purposes]
  unfold LogInScreen.OnPurpose
  rw [hpurposes]
  refine and_congr_right fun _ => forall₂_congr fun purpose hpurpose => ?_
  obtain ⟨origin, ho, rfl⟩ := List.mem_map.1 hpurpose
  exact h.earned_iff (ht.known origin (List.mem_append_right _ ho))

/-! ## The steps -/

theorem starts_of_tap {s s' : LogInScreen} {started : List Origin} {valid : Bool}
    (hrequests : s'.requests = s.requests) (hevaluations : s'.evaluations = s.evaluations)
    (htaps : s'.taps = s.taps ++ [valid]) (htasks : s'.tasks = s.tasks ++ started)
    (hnodup : started.Nodup) (hstarted : ∀ origin ∈ started, origin = .passwordObserver s.taps.length ∨
      origin = .button s.taps.length ∧ valid = true) : s.Starts s' started where
  requests := hrequests
  tasks := htasks
  taps := ⟨[valid], htaps⟩
  evaluations i passwordFound h := by rw [hevaluations]; exact h
  nodup := hnodup
  fresh origin ho := by
    rcases hstarted origin ho with rfl | ⟨rfl, rfl⟩
    · have hlen : s'.taps.length = s.taps.length + 1 := by rw [htaps, List.length_append]; rfl
      refine ⟨?_, lt_irrefl _⟩
      show s.taps.length < s'.taps.length
      omega
    · constructor
      · show s'.taps[s.taps.length]? = some true
        rw [htaps, List.getElem?_append_right le_rfl, Nat.sub_self]
        rfl
      · intro h
        exact lt_irrefl _ (List.getElem?_eq_some_iff.1 h).1

/-- A tap starts no task, that of its assignment to `password`, or that and its own. -/
theorem handleEventFromLogInButton_starts (s : LogInScreen) (satisfied : Bool)
    (emailText passwordText : Option String) :
    ∃ started, s.Starts (s.handleEventFromLogInButton satisfied emailText passwordText) started := by
  have hnone : ∀ s', s'.requests = s.requests → s'.evaluations = s.evaluations →
      s'.taps = s.taps ++ [false] → s'.tasks = s.tasks ++ [] → ∃ started, s.Starts s' started :=
    fun s' hr he ht hl => ⟨[], starts_of_tap hr he ht hl List.nodup_nil nofun⟩
  unfold LogInScreen.handleEventFromLogInButton
  by_cases hsatisfied : satisfied = true
  · rw [if_pos hsatisfied]
    dsimp only
    split
    · split
      -- both checks passed: the task of the assignment, then the button's own
      · refine ⟨[.passwordObserver s.taps.length, .button s.taps.length],
          starts_of_tap rfl rfl rfl (List.append_assoc _ _ _) (by simp) fun origin ho => ?_⟩
        simpa using ho
      -- `checkPassword` failed, after the assignment has started its task
      · refine ⟨[.passwordObserver s.taps.length], starts_of_tap rfl rfl rfl rfl
          (List.nodup_singleton _) fun origin ho => .inl ?_⟩
        simpa using ho
    · exact hnone _ rfl rfl rfl (List.append_nil _).symm
  · rw [if_neg hsatisfied]
    exact hnone _ rfl rfl rfl (List.append_nil _).symm

/-- An evaluation goes on; those that have assigned stay as they are. -/
theorem assigned_of_set {evaluations : List Evaluation} {i : ℕ} {a b : Evaluation}
    (h : evaluations[i]? = some a) (ha : ∀ passwordFound, a ≠ .assigned passwordFound) (j : ℕ)
    (passwordFound : Bool) (hj : evaluations[j]? = some (.assigned passwordFound)) :
    (evaluations.set i b)[j]? = some (.assigned passwordFound) := by
  have hne : i ≠ j := by
    rintro rfl
    rw [h, Option.some.injEq] at hj
    exact ha passwordFound hj
  rw [List.getElem?_set_ne hne]
  exact hj

theorem starts_of_evaluations {s s' : LogInScreen} (hrequests : s'.requests = s.requests)
    (htasks : s'.tasks = s.tasks) (htaps : s'.taps = s.taps)
    (hevaluations : ∀ (i : ℕ) (passwordFound : Bool),
      s.evaluations[i]? = some (Evaluation.assigned passwordFound) →
        s'.evaluations[i]? = some (Evaluation.assigned passwordFound)) : s.Starts s' [] where
  requests := hrequests
  tasks := by rw [htasks, List.append_nil]
  taps := ⟨[], by rw [htaps, List.append_nil]⟩
  evaluations := hevaluations
  nodup := List.nodup_nil
  fresh := nofun

/-- What `getPasswordInKeychain` does: nothing, or an assignment that starts one task. -/
theorem getPasswordInKeychain_cases (device : Device) (s : LogInScreen) (origin : Origin)
    (fault : Option Int) (keychain : Keychain) :
    s.getPasswordInKeychain device origin fault keychain = (s, false) ∨
      ∃ password : Option String, s.getPasswordInKeychain device origin fault keychain =
        (s.setPassword password origin, password.isSome) := by
  unfold LogInScreen.getPasswordInKeychain
  split
  · split
    · exact .inr ⟨_, rfl⟩
    · exact .inl rfl
  · exact .inl rfl

/-- **Every step but a login task's** starts tasks and sends nothing. -/
theorem step_starts {device : Device} {s s' : LogInScreen} {e : LogInScreenEvent}
    (hs : s.step device e = some s') (he : ∀ origin, e ≠ .logInBasedOn origin) :
    ∃ started, s.Starts s' started := by
  cases e with
  | handleEventFromLogInButton satisfied emailText passwordText =>
    obtain rfl := Option.some.inj hs
    exact handleEventFromLogInButton_starts s satisfied emailText passwordText
  | handleEventFromFaceIdButton =>
    obtain rfl := Option.some.inj hs
    refine ⟨[], starts_of_evaluations rfl rfl rfl fun i passwordFound h => ?_⟩
    rw [List.getElem?_append_left (List.getElem?_eq_some_iff.1 h).1]
    exact h
  | evaluate i canEvaluate evaluatePolicy =>
    obtain ⟨hi, rfl⟩ := by simpa [LogInScreen.step] using hs
    exact ⟨[], starts_of_evaluations rfl rfl rfl (assigned_of_set hi nofun)⟩
  | didValidRightFace i fault keychain =>
    simp only [LogInScreen.step] at hs
    split at hs
    · rename_i success hi
      obtain rfl := Option.some.inj hs
      rcases getPasswordInKeychain_cases device { s with didValidRightFace := success }
        (.rightFace i) fault keychain with h | ⟨password, h⟩
      · rw [h]
        exact ⟨[], starts_of_evaluations rfl rfl rfl (assigned_of_set hi nofun)⟩
      · rw [h]
        refine ⟨[.rightFace i], rfl, rfl, ⟨[], (List.append_nil _).symm⟩, assigned_of_set hi nofun,
          List.nodup_singleton _, fun origin ho => ?_⟩
        obtain rfl := List.mem_singleton.1 ho
        constructor
        · have hlt := (List.getElem?_eq_some_iff.1 hi).1
          exact ⟨password.isSome, List.getElem?_set_self hlt⟩
        · rintro ⟨passwordFound, h'⟩
          rw [hi] at h'
          cases h'
    · cases hs
  | logInBasedOn origin => exact absurd rfl (he origin)
  | fetchUserInCoreData users =>
    obtain rfl := Option.some.inj hs
    have hsame : ∀ s' : LogInScreen, s'.requests = s.requests → s'.tasks = s.tasks →
        s'.taps = s.taps → s'.evaluations = s.evaluations → ∃ started, s.Starts s' started :=
      fun s' hr hl ht hv => ⟨[], starts_of_evaluations hr hl ht fun i _ h => by rw [hv]; exact h⟩
    unfold LogInScreen.fetchUserInCoreData
    split <;> exact hsame _ rfl rfl rfl rfl

/-! ## The login tasks -/

/-- A login task sends one request if it finds an e-mail and a password, and none otherwise. -/
theorem logInBasedOn_cases (s : LogInScreen) (origin : Origin) :
    (s.email.isSome ∧ s.password.isSome ∧ ∃ email password,
      s.logInBasedOn origin = { s with requests := s.requests ++ [⟨origin, email, password⟩] }) ∨
    (s.email.isSome → ¬ s.password.isSome) ∧ s.logInBasedOn origin = s := by
  unfold LogInScreen.logInBasedOn
  cases hemail : s.email with
  | none => exact .inr ⟨nofun, rfl⟩
  | some email =>
    cases hpassword : s.password with
    | none => exact .inr ⟨fun _ => nofun, rfl⟩
    | some password => exact .inl ⟨rfl, rfl, email, password, rfl⟩

theorem logInBasedOn_tracked {s : LogInScreen} {origin : Origin} (ht : s.Tracked)
    (ho : origin ∈ s.tasks) :
    ({ s with tasks := s.tasks.erase origin }.logInBasedOn origin).Tracked := by
  rcases logInBasedOn_cases { s with tasks := s.tasks.erase origin } origin with
    ⟨-, -, email, password, h⟩ | ⟨-, h⟩
  · -- the origin of the task is now that of a request
    have hperm : (s.tasks.erase origin ++ (s.origins ++ [origin])).Perm (s.tasks ++ s.origins) := by
      have herase := (List.perm_cons_erase ho).symm.append_right s.origins
      refine List.Perm.trans ?_ herase
      rw [← List.append_assoc]
      exact List.perm_append_singleton origin _
    have horigins : LogInScreen.origins { s with
        tasks := s.tasks.erase origin
        requests := s.requests ++ [⟨origin, email, password⟩] } = s.origins ++ [origin] :=
      List.map_append
    rw [h]
    constructor
    · rw [horigins, hperm.nodup_iff]
      exact ht.once
    · intro o hmem
      rw [horigins, hperm.mem_iff] at hmem
      have hknown := ht.known o hmem
      cases o <;> exact hknown
  · -- the task is gone, and no request came of it
    rw [h]
    have hsub : (s.tasks.erase origin ++ s.origins).Sublist (s.tasks ++ s.origins) :=
      List.erase_sublist.append_right _
    refine ⟨ht.once.sublist hsub, fun o hmem => ?_⟩
    have hknown := ht.known o (hsub.subset hmem)
    cases o <;> exact hknown

theorem tap_mem_purposes {s : LogInScreen} {tap : ℕ} :
    .tap tap ∈ s.purposes ↔ .button tap ∈ s.origins ∨ .passwordObserver tap ∈ s.origins := by
  constructor
  · intro h
    obtain ⟨origin, ho, hp⟩ := List.mem_map.1 h
    cases origin with
    | button tap' => cases hp; exact .inl ho
    | passwordObserver tap' => cases hp; exact .inr ho
    | rightFace i => cases hp
  · rintro (h | h)
    · exact List.mem_map_of_mem h
    · exact List.mem_map_of_mem h

theorem evaluation_mem_purposes {s : LogInScreen} {i : ℕ} :
    .evaluation i ∈ s.purposes ↔ .rightFace i ∈ s.origins := by
  constructor
  · intro h
    obtain ⟨origin, ho, hp⟩ := List.mem_map.1 h
    cases origin with
    | button tap => cases hp
    | passwordObserver tap => cases hp
    | rightFace j => cases hp; exact ho
  · exact fun h => List.mem_map_of_mem h

/-- The condition on a task that sends: its purpose has no request yet and has earned one. -/
theorem purposeful_iff {s : LogInScreen} {origin : Origin} (ht : s.Tracked)
    (ho : origin ∈ s.tasks) (hemail : s.email.isSome) (hpassword : s.password.isSome) :
    Purposeful s (.logInBasedOn origin) ↔ origin.purpose ∉ s.purposes ∧ s.Earned origin.purpose := by
  -- a waiting task has sent nothing, so only the other task of its tap can have
  have hnew : origin ∉ s.origins := fun hmem => (List.nodup_append.1 ht.once).2.2 _ ho _ hmem rfl
  have hknown := ht.known origin (List.mem_append_left _ ho)
  cases origin with
  | button tap =>
    have hvalid : s.Earned (.tap tap) := hknown
    simp [Purposeful, Origin.purpose, tap_mem_purposes, hemail, hpassword, hnew, hvalid]
  | passwordObserver tap =>
    simp [Purposeful, Origin.purpose, tap_mem_purposes, hemail, hpassword, hnew, LogInScreen.Earned]
  | rightFace i =>
    simp [Purposeful, Origin.purpose, evaluation_mem_purposes, hemail, hpassword, hnew,
      LogInScreen.Earned]

theorem logInBasedOn_onPurpose_iff {s : LogInScreen} {origin : Origin} (ht : s.Tracked)
    (ho : origin ∈ s.tasks) :
    ({ s with tasks := s.tasks.erase origin }.logInBasedOn origin).OnPurpose ↔
      s.OnPurpose ∧ Purposeful s (.logInBasedOn origin) := by
  rcases logInBasedOn_cases { s with tasks := s.tasks.erase origin } origin with
    ⟨hemail, hpassword, email, password, h⟩ | ⟨hnone, h⟩
  · rw [h, purposeful_iff ht ho hemail hpassword]
    have hpurposes : LogInScreen.purposes { s with
        tasks := s.tasks.erase origin
        requests := s.requests ++ [⟨origin, email, password⟩] } = s.purposes ++ [origin.purpose] := by
      simp [LogInScreen.purposes, LogInScreen.origins]
    have hearned : ∀ purpose, LogInScreen.Earned { s with
        tasks := s.tasks.erase origin
        requests := s.requests ++ [⟨origin, email, password⟩] } purpose ↔ s.Earned purpose := by
      intro purpose
      cases purpose <;> exact Iff.rfl
    unfold LogInScreen.OnPurpose
    rw [hpurposes, forall_mem_snoc_iff, hearned, (List.perm_append_singleton _ _).nodup_iff,
      List.nodup_cons]
    simp only [hearned]
    tauto
  · rw [h]
    have hok : Purposeful s (.logInBasedOn origin) := by
      cases origin <;> exact fun hemail hpassword => absurd hpassword (hnone hemail)
    rw [and_iff_left hok]
    refine and_congr Iff.rfl (forall₂_congr fun purpose _ => ?_)
    cases purpose <;> exact Iff.rfl

/-- **One step** keeps the requests on purpose exactly when it meets the condition. -/
theorem step_tracked {device : Device} (s : LogInScreen) (e : LogInScreenEvent) (s' : LogInScreen)
    (ht : s.Tracked) (hs : s.step device e = some s') :
    s'.Tracked ∧ (s'.OnPurpose ↔ s.OnPurpose ∧ Purposeful s e) := by
  by_cases he : ∃ origin, e = .logInBasedOn origin
  · obtain ⟨origin, rfl⟩ := he
    obtain ⟨ho, rfl⟩ := by simpa [LogInScreen.step] using hs
    exact ⟨logInBasedOn_tracked ht ho, logInBasedOn_onPurpose_iff ht ho⟩
  · have hne : ∀ origin, e ≠ .logInBasedOn origin := fun origin h => he ⟨origin, h⟩
    obtain ⟨started, hstarts⟩ := step_starts hs hne
    refine ⟨hstarts.tracked ht, (hstarts.onPurpose_iff ht).trans (and_iff_left ?_).symm⟩
    cases e with
    | logInBasedOn origin => exact absurd rfl (hne origin)
    | _ => trivial

/-- **Sign-in requests are made on purpose exactly when every task is purposeful**, and then they
are at most the taps that passed their checks and the evaluations that found a password. -/
theorem requests_on_purpose (device : Device) {es : List LogInScreenEvent} {s : LogInScreen}
    (h : run (LogInScreen.step device) .launch es = some s) :
    (s.OnPurpose ↔ Along (LogInScreen.step device) Purposeful .launch es) ∧
      (Along (LogInScreen.step device) Purposeful .launch es → s.OnlyOnPurpose) := by
  have hlaunch : LogInScreen.launch.Tracked := ⟨List.nodup_nil, nofun⟩
  have hiff := holds_iff_along (fun s e s' ht hs => (step_tracked s e s' ht hs).1)
    (fun s e s' ht hs => (step_tracked s e s' ht hs).2) es hlaunch h
  rw [and_iff_right ⟨List.nodup_nil, nofun⟩] at hiff
  exact ⟨hiff, fun hok => onlyOnPurpose (hiff.2 hok)⟩

def simulator : Device := ⟨true, "group", none, .first⟩

/-- A tap sends its request; before the second of its tasks executes, Face ID finds no stored
password and takes the typed one away. -/
def nothingStoredRun : List LogInScreenEvent :=
  [.handleEventFromLogInButton true (some "a") (some "b"), .logInBasedOn (.passwordObserver 0),
    .handleEventFromFaceIdButton, .evaluate 0 true (.ok true), .didValidRightFace 0 none [],
    .logInBasedOn (.button 0), .logInBasedOn (.rightFace 0)]

theorem requests_on_purpose_nothing_stored :
    ∃ s, run (LogInScreen.step simulator) .launch nothingStoredRun = some s ∧
      s.OnlyOnPurpose := by
  obtain ⟨s, h⟩ : ∃ s, run (LogInScreen.step simulator) .launch nothingStoredRun = some s :=
    ⟨_, rfl⟩
  exact ⟨s, h, (requests_on_purpose _ h).2 (by decide)⟩

/-- **One tap signs in twice, and a refused tap once**: with both fields filled the two tasks of
the tap send a request each, and with an empty password the observer's task sends one. -/
theorem tap_signs_in_twice :
    (∃ s, run (LogInScreen.step simulator) .launch
        [.handleEventFromLogInButton true (some "a") (some "b"),
          .logInBasedOn (.passwordObserver 0), .logInBasedOn (.button 0)] = some s ∧
      s.taps = [true] ∧ s.evaluations = [] ∧ s.purposes = [.tap 0, .tap 0] ∧ ¬ s.OnlyOnPurpose) ∧
    (∃ s, run (LogInScreen.step simulator) .launch
        [.handleEventFromLogInButton true (some "a") (some ""),
          .logInBasedOn (.passwordObserver 0)] = some s ∧
      s.taps = [false] ∧ s.evaluations = [] ∧ s.purposes = [.tap 0] ∧ ¬ s.OnlyOnPurpose) := by
  refine ⟨⟨_, rfl, rfl, rfl, rfl, fun h => ?_⟩, ⟨_, rfl, rfl, rfl, rfl, fun h => ?_⟩⟩
  · exact absurd h.total (by decide)
  · exact absurd h.total (by decide)

end ArtExhibition
