import ArtExhibition.Machine.Buffer
import ArtExhibition.Proof.UserStore
import ArtExhibition.Spec.Relaunch

/-!
# Which user rows a relaunch finds

A row whose `save` has failed is fetched like any other. It is there after a relaunch exactly when some
later save of the context succeeded before the process ended, a `save` of another row or one that the
background asked for: `relaunch_rows` reads both kinds of rows off the events.
-/

namespace ArtExhibition

open Machine

/-- The context is saved. -/
def AppEvent.savesContext : AppEvent → Bool
  | .save _ saveThrows | .sceneDidEnterBackground saveThrows => !saveThrows
  | .relaunch => false

/-- The process ends, if a row is not saved. -/
def AppEvent.endsProcess : AppEvent → Bool
  | .sceneDidEnterBackground saveThrows => saveThrows
  | .relaunch => true
  | .save _ _ => false

/-- The row of the first event, if the context is saved in it or later, before the process ends. -/
def keptRow : List AppEvent → Option User
  | .save user saveThrows :: later =>
    if !saveThrows || (later.takeWhile fun e => !e.endsProcess).any AppEvent.savesContext then some user
    else none
  | _ => none

/-- The row of the first event, if neither has come. -/
def unsavedRow : List AppEvent → Option User
  | .save user saveThrows :: later =>
    if saveThrows && later.all fun e => !e.savesContext && !e.endsProcess then some user else none
  | _ => none

/-! ## The store as a buffered one -/

/-- An event of the buffered store. -/
def AppEvent.buffered : AppEvent → BufferEvent User
  | .save user saveThrows => .append user !saveThrows
  | .sceneDidEnterBackground saveThrows => if saveThrows then .restart else .flush
  | .relaunch => .restart

@[simp] theorem buffered_save (user : User) (saveThrows : Bool) :
    (AppEvent.save user saveThrows).buffered = .append user !saveThrows := rfl

def UserStore.buffer (store : UserStore) : Buffer User := ⟨store.persisted, store.pending⟩

/-- **The store is a buffered one.** -/
theorem buffer_following (store : UserStore) (e : AppEvent) :
    (store.following e).buffer = store.buffer.after e.buffered := by
  cases e with
  | save user saveThrows => cases saveThrows <;> rfl
  | sceneDidEnterBackground saveThrows =>
    obtain ⟨persisted, pending⟩ := store
    cases pending <;> cases saveThrows <;>
      simp [UserStore.following, UserStore.saveContext, UserStore.buffer, UserStore.relaunch,
        AppEvent.buffered, Buffer.after]
  | relaunch => rfl

theorem buffer_foldl (events : List AppEvent) (store : UserStore) :
    (events.foldl UserStore.following store).buffer = store.buffer.run (events.map AppEvent.buffered) := by
  induction events generalizing store with
  | nil => rfl
  | cons e events ih =>
    rw [List.foldl_cons, ih, buffer_following]
    rfl

theorem flushes_buffered (e : AppEvent) : e.buffered.flushes = e.savesContext := by
  cases e with
  | save user saveThrows => rfl
  | sceneDidEnterBackground saveThrows => cases saveThrows <;> rfl
  | relaunch => rfl

theorem restarts_buffered (e : AppEvent) : e.buffered.restarts = e.endsProcess := by
  cases e with
  | save user saveThrows => rfl
  | sceneDidEnterBackground saveThrows => cases saveThrows <;> rfl
  | relaunch => rfl

theorem kept_buffered (events : List AppEvent) : kept (events.map AppEvent.buffered) = keptRow events := by
  cases events with
  | nil => rfl
  | cons e later =>
    cases e with
    | save user saveThrows =>
      simp [kept, keptRow, flushedIn, List.takeWhile_map, List.any_map, Function.comp_def,
        flushes_buffered, restarts_buffered]
    | sceneDidEnterBackground saveThrows => cases saveThrows <;> rfl
    | relaunch => rfl

theorem leftOpen_buffered (events : List AppEvent) :
    leftOpen (events.map AppEvent.buffered) = unsavedRow events := by
  cases events with
  | nil => rfl
  | cons e later =>
    cases e with
    | save user saveThrows =>
      simp [leftOpen, unsavedRow, openIn, List.all_map, Function.comp_def, flushes_buffered,
        restarts_buffered]
    | sceneDidEnterBackground saveThrows => cases saveThrows <;> rfl
    | relaunch => rfl

/-! ## The rows -/

/-- After any events since the first launch: the rows that a relaunch finds are those whose context
was saved in time, in the order of their `save`s; a fetch before it shows the unsaved ones too, and a
relaunch changes what is fetched exactly when there are any. -/
theorem relaunch_rows (events : List AppEvent) :
    (UserStore.since events).relaunch = ⟨events.tails.filterMap keptRow, []⟩ ∧
    (UserStore.since events).fetch.Perm
      (events.tails.filterMap keptRow ++ events.tails.filterMap unsavedRow) ∧
    ((UserStore.since events).relaunch.fetch = (UserStore.since events).fetch ↔
      events.tails.filterMap unsavedRow = []) := by
  have hstore : (UserStore.since events).buffer =
      ⟨events.tails.filterMap keptRow, events.tails.filterMap unsavedRow⟩ := by
    have hrun := buffer_foldl events ⟨[], []⟩
    rw [Buffer.run_eq, List.map_tails, List.filterMap_map, List.filterMap_map] at hrun
    simpa [UserStore.since, UserStore.buffer, Function.comp_def, kept_buffered, leftOpen_buffered] using hrun
  have hpersisted : (UserStore.since events).persisted = events.tails.filterMap keptRow :=
    congrArg Buffer.stored hstore
  have hpending : (UserStore.since events).pending = events.tails.filterMap unsavedRow :=
    congrArg Buffer.buffered hstore
  have hfetch := fetch_perm (UserStore.since events)
  rw [hpersisted, hpending] at hfetch
  refine ⟨by rw [UserStore.relaunch, hpersisted], hfetch, ?_, ?_⟩
  · intro hsame
    -- as many rows before the relaunch as after it
    have hrelaunched := fetch_perm (UserStore.since events).relaunch
    rw [hsame] at hrelaunched
    have hlength := hfetch.length_eq.symm.trans hrelaunched.length_eq
    simpa [UserStore.relaunch, hpersisted] using hlength
  · intro hnone
    unfold UserStore.fetch
    rw [hpending, hnone]
    rfl

/-- A row whose `save` failed is fetched, and lost: unless the app enters the background in between. -/
example :
    let ann : User := ⟨some "ann", none, some "ann@art", none⟩
    (UserStore.since [.save ann true]).fetch = [ann] ∧
      (UserStore.since [.save ann true, .relaunch]).fetch = [] ∧
      (UserStore.since [.save ann true, .sceneDidEnterBackground false, .relaunch]).fetch = [ann] :=
  ⟨rfl, rfl, rfl⟩

end ArtExhibition
