import ArtExhibition.Machine.History
import ArtExhibition.Proof.Enrolment
import ArtExhibition.Proof.UserStore

/-!
# One stored row per user

A row is inserted for each provider of each `getUserInformation` call and none is ever
replaced, so the rows are the history of what the calls have read (`Recorded`).

`OneRow` says of a step that the rows it leaves have pairwise different e-mails, and that a call
that returns in it leaves one row for the signed-in user's e-mail, with the values read last.
`one_row_iff`: along a run this holds exactly when no call reads an e-mail that was read before,
and a call returns only after the user's own e-mail has been read for it, last (`ReadOnce`).
A second appearance of the settings screen is enough to break it (`second_appearance`).
-/

namespace ArtExhibition

open Machine

variable {device : Device} {s s' : Enrolment × List (String × User)} {e : EnrolmentEvent}

/-! ## What the calls read -/

/-- The values that an event reads for an account, under its uid. -/
def Enrolment.reads (s : Enrolment) : EnrolmentEvent → List (String × User)
  | .round i input =>
    match s.tasks[i]? with
    | some (.looping account (providerID :: _)) =>
      match getUserInformationRound providerID input with
      | .save user => [(account.uid, user.row input.profileImage)]
      | _ => []
    | _ => []
  | _ => []

/-- **The enrolment system with a record** of the values that its calls have read. -/
def readingStep (device : Device) :
    Enrolment × List (String × User) → EnrolmentEvent → Option (Enrolment × List (String × User)) :=
  recorded (Enrolment.step device) Enrolment.reads

/-- The values read last for the account with this uid. -/
def lastRead (reads : List (String × User)) (uid : String) : Option User :=
  ((reads.filter fun read => read.1 = uid).getLast?).map Prod.snd

/-- Whether a call returns in this event: its loop is over, or its `guard` found no Google user. -/
def Enrolment.returns (s : Enrolment) : EnrolmentEvent → Bool
  | .round i input =>
    match s.tasks[i]? with
    | some (.looping _ []) => true
    | some (.looping _ (providerID :: _)) => getUserInformationRound providerID input = .returned
    | _ => false
  | _ => false

/-- The rows with this e-mail that a fetch returns. -/
def UserStore.rowsOf (store : UserStore) (email : String) : List User :=
  store.fetch.filter fun row => row.email = some email

/-- **One row per user**, after an event. -/
def OneRow (device : Device) (s : Enrolment × List (String × User)) (e : EnrolmentEvent) : Prop :=
  ∀ s' ∈ readingStep device s e, (s'.1.store.fetch.map User.email).Nodup ∧
    (s.1.returns e → ∀ user ∈ s'.1.currentUser, ∃ row,
      s'.1.store.rowsOf user.email = [row] ∧ lastRead s'.2 user.uid = some row)

/-- What is read has an e-mail not read before; and a call returns when the values last read for
the signed-in user have that user's e-mail. -/
def ReadOnce (s : Enrolment × List (String × User)) (e : EnrolmentEvent) : Prop :=
  (∀ new ∈ s.1.reads e, ∀ old ∈ s.2, new.2.email ≠ old.2.email) ∧
    (s.1.returns e → ∀ user ∈ s.1.currentUser, ∃ row ∈ lastRead s.2 user.uid, row.email = some user.email)

instance (s : Enrolment × List (String × User)) (e : EnrolmentEvent) : Decidable (ReadOnce s e) :=
  inferInstanceAs (Decidable (_ ∧ _))

/-- **The rows are what was read**, in that order. -/
def Recorded (s : Enrolment × List (String × User)) : Prop := s.1.store.rows = s.2.map Prod.snd

/-! ## One event -/

/-- An event reads one row at most, and that row is what it saves. -/
theorem step_reads {s s' : Enrolment} (hs : s.step device e = some s') :
    s'.store.rows = s.store.rows ++ (s.reads e).map Prod.snd ∧ (s.reads e).length ≤ 1 := by
  unfold Enrolment.step at hs
  split at hs
  · cases hs
  cases e with
  | signIn account =>
    obtain rfl := Option.some.inj hs
    simp [Enrolment.reads]
  | signOut =>
    obtain rfl := Option.some.inj hs
    simp [Enrolment.reads]
  | getUserInformation =>
    dsimp only at hs
    split at hs
    all_goals
      obtain rfl := Option.some.inj hs
      simp [Enrolment.reads]
  | savePasswordInKeychain password faults =>
    dsimp only at hs
    split at hs
    · obtain rfl := Option.some.inj hs
      simp [Enrolment.reads]
    · cases hs
  | round i input =>
    dsimp only at hs
    split at hs
    · -- the loop is over
      rename_i htask
      obtain rfl := Option.some.inj hs
      simp [Enrolment.reads, htask, Enrolment.setTask]
    · rename_i account providerID providers htask
      split at hs
      · rename_i user hround
        obtain rfl := Option.some.inj hs
        simp [Enrolment.reads, htask, hround, rows_save]
      all_goals
        rename_i hround
        obtain rfl := Option.some.inj hs
        simp [Enrolment.reads, htask, hround, Enrolment.setTask]
    · cases hs

/-- An event in which a call returns reads nothing and signs nobody in. -/
theorem reads_of_returns {s s' : Enrolment} (hs : s.step device e = some s') (h : s.returns e) :
    s.reads e = [] ∧ s'.currentUser = s.currentUser := by
  cases e with
  | round i input =>
    unfold Enrolment.step at hs
    split at hs
    · cases hs
    simp only [Enrolment.returns] at h
    dsimp only at hs
    split at h
    · -- the loop is over
      rename_i htask
      rw [htask] at hs
      obtain rfl := Option.some.inj hs
      simp [Enrolment.reads, htask, Enrolment.setTask]
    · rename_i account providerID providers htask
      have hreturned := of_decide_eq_true h
      simp only [htask, hreturned] at hs
      obtain rfl := Option.some.inj hs
      simp [Enrolment.reads, htask, hreturned, Enrolment.setTask]
    · cases h
  | _ => cases h

theorem recorded_step (h : Recorded s) (hs : readingStep device s e = some s') : Recorded s' := by
  obtain ⟨hstep, hreads⟩ := recorded_eq_some.1 hs
  unfold Recorded at *
  rw [(step_reads hstep).1, h, hreads, List.map_append]

/-- The fetched e-mails are those that were read. -/
theorem nodup_emails_iff (h : Recorded s) :
    (s.1.store.fetch.map User.email).Nodup ↔ (s.2.map fun read => read.2.email).Nodup := by
  have hperm := (fetch_perm s.1.store).map User.email
  rw [hperm.nodup_iff]
  change (s.1.store.rows.map User.email).Nodup ↔ _
  rw [h, List.map_map]
  rfl

/-- Among rows with different e-mails, the ones of a user are the last read values exactly when
these have the user's e-mail. -/
theorem rowsOf_eq_iff (h : Recorded s) (hnodup : (s.1.store.fetch.map User.email).Nodup) (user : Account) :
    (∃ row, s.1.store.rowsOf user.email = [row] ∧ lastRead s.2 user.uid = some row) ↔
      ∃ row ∈ lastRead s.2 user.uid, row.email = some user.email := by
  constructor
  · rintro ⟨row, hrows, hlast⟩
    have hmem : row ∈ s.1.store.rowsOf user.email := hrows ▸ List.mem_singleton_self row
    exact ⟨row, hlast, by simpa using (List.mem_filter.1 hmem).2⟩
  · rintro ⟨row, hlast, hemail⟩
    -- the last read row is in the store, as everything that was read
    have hread : row ∈ s.2.map Prod.snd := by
      obtain ⟨read, hread, rfl⟩ := Option.map_eq_some_iff.1 hlast
      exact List.mem_map_of_mem (List.mem_of_mem_filter (List.mem_of_getLast? hread))
    have hfetched : row ∈ s.1.store.fetch := by
      rw [(fetch_perm s.1.store).mem_iff]
      change row ∈ s.1.store.rows
      rwa [h]
    -- and no other row has its e-mail
    have hother : ∀ other ∈ s.1.store.fetch, other.email = some user.email → other = row :=
      fun other hmem hsame => List.inj_on_of_nodup_map hnodup hmem hfetched (hsame.trans hemail.symm)
    have hrow : row ∈ s.1.store.rowsOf user.email := List.mem_filter.2 ⟨hfetched, by simpa using hemail⟩
    have hrows : (s.1.store.rowsOf user.email).Nodup := (List.Nodup.of_map _ hnodup).filter _
    have hall : ∀ other ∈ s.1.store.rowsOf user.email, other = row := by
      intro other hmem
      obtain ⟨hmem, hsame⟩ := List.mem_filter.1 hmem
      exact hother other hmem (by simpa using hsame)
    refine ⟨row, ?_, hlast⟩
    have hreplicate := List.eq_replicate_of_mem hall
    have hlength : (s.1.store.rowsOf user.email).length = 1 := by
      have hpos := List.length_pos_of_mem hrow
      have hle := List.nodup_replicate.1 (hreplicate ▸ hrows)
      omega
    rw [hreplicate, hlength]
    rfl

/-- **One event leaves one row per user exactly when it meets the condition.** -/
theorem oneRow_iff (h : Recorded s) (hnodup : (s.1.store.fetch.map User.email).Nodup)
    (hs : readingStep device s e = some s') : OneRow device s e ↔ ReadOnce s e := by
  obtain ⟨hstep, hreads⟩ := recorded_eq_some.1 hs
  have hrecorded := recorded_step h hs
  have hdistinct : (s'.1.store.fetch.map User.email).Nodup ↔
      ∀ new ∈ s.1.reads e, ∀ old ∈ s.2, new.2.email ≠ old.2.email := by
    rw [nodup_emails_iff h] at hnodup
    rw [nodup_emails_iff hrecorded, hreads, List.map_append, List.nodup_append, and_iff_right hnodup]
    have hone : ((s.1.reads e).map fun read => read.2.email).Nodup := by
      have hlength := (step_reads hstep).2
      match hl : s.1.reads e with
      | [] => exact List.nodup_nil
      | [read] => exact List.nodup_singleton _
      | _ :: _ :: _ => simp [hl] at hlength
    rw [and_iff_right hone]
    simp only [List.forall_mem_map]
    exact ⟨fun hne new hnew old hold heq => hne old hold new hnew heq.symm,
      fun hne old hold new hnew heq => hne new hnew old hold heq.symm⟩
  have hone : OneRow device s e ↔ (s'.1.store.fetch.map User.email).Nodup ∧
      (s.1.returns e → ∀ user ∈ s'.1.currentUser, ∃ row,
        s'.1.store.rowsOf user.email = [row] ∧ lastRead s'.2 user.uid = some row) := by
    simp [OneRow, hs]
  rw [hone, ReadOnce, ← hdistinct]
  refine and_congr_right fun hnodup' => forall_congr' fun hreturns => ?_
  obtain ⟨hnone, hcurrent⟩ := reads_of_returns hstep hreturns
  rw [hcurrent]
  refine forall₂_congr fun user _ => ?_
  rw [rowsOf_eq_iff hrecorded hnodup', hreads, hnone, List.append_nil]

/-! ## Runs -/

/-- At the first launch nothing is stored and nothing has been read. -/
theorem recorded_launch (keychain : Keychain) : Recorded (Enrolment.launch keychain, []) := rfl

theorem oneRow_along (h : Recorded s) (hnodup : (s.1.store.fetch.map User.email).Nodup)
    {es : List EnrolmentEvent} (hrun : run (readingStep device) s es = some s') :
    Along (readingStep device) (OneRow device) s es ↔ Along (readingStep device) ReadOnce s es := by
  refine along_iff_of_kept
    (P := fun s => Recorded s ∧ (s.1.store.fetch.map User.email).Nodup) ?_ ?_ es ⟨h, hnodup⟩ hrun
  · intro s e s' hs hone hstep
    exact ⟨recorded_step hs.1 hstep, (hone s' hstep).1⟩
  · intro s e s' hs hstep
    exact oneRow_iff hs.1 hs.2 hstep

/-- **One stored row per user exactly when everything is read once.** From the first launch,
over any keychain; sign-ins, sign-outs, calls and their rounds in any order. -/
theorem one_row_iff (device : Device) (keychain : Keychain) {es : List EnrolmentEvent}
    (h : run (readingStep device) (.launch keychain, []) es = some s) :
    Along (readingStep device) (OneRow device) (.launch keychain, []) es ↔
      Along (readingStep device) ReadOnce (.launch keychain, []) es :=
  oneRow_along (recorded_launch keychain) List.nodup_nil h

/-- Two accounts sign in one after the other; the settings screen appears once for each. -/
def oneVisitEach : List EnrolmentEvent :=
  .signIn ⟨"A", "a@x", ["password"]⟩ :: documentRounds 0 "a@x" ++ .signOut :: enrolB 1

theorem one_row_visit_each :
    Along (readingStep someDevice) (OneRow someDevice) (.launch [], []) oneVisitEach := by
  obtain ⟨s, h⟩ : ∃ s, run (readingStep someDevice) (.launch [], []) oneVisitEach = some s := ⟨_, rfl⟩
  exact (one_row_iff someDevice [] h).2 (by decide)

/-- **A second appearance of the settings screen stores the user twice.** -/
theorem second_appearance :
    ¬ Along (readingStep someDevice) (OneRow someDevice) (.launch [], [])
      (enrolB 0 ++ documentRounds 1 "b@x") := by
  obtain ⟨s, h⟩ : ∃ s, run (readingStep someDevice) (.launch [], [])
      (enrolB 0 ++ documentRounds 1 "b@x") = some s := ⟨_, rfl⟩
  rw [oneRow_along (recorded_launch []) List.nodup_nil h]
  decide

end ArtExhibition
