import Mathlib.Data.List.Basic
import Mathlib.Tactic.Common

/-!
# `Router` and the tasks it starts

One router shared by any number of calls of `request`, `upload`, `download` and
`streamDownload`. Each call builds its request, stores a suspended data task for it in the
router's `task`, awaits a transfer of its own, and then resumes whatever `task` holds by
then. The calls run on any threads, so a step is one statement of one call.

Assumed of `URLSession`: `dataTask(with:)` makes a suspended task, which goes out at its
first resume unless it has been cancelled; `data(for:)`, `download(for:)` and `bytes(for:)`
start a task of their own.
-/

namespace ArtExhibition

/-- The functions of `NetworkRouter`. -/
inductive RouterMethod
  | request | upload | download | streamDownload
  deriving DecidableEq, Repr

/-- The `URLSession` function that a call awaits. -/
inductive SessionFunction
  | data | download | bytes
  deriving DecidableEq, Repr

/-- `upload` awaits `data(for:)`, as `request` does. -/
def RouterMethod.awaits : RouterMethod → SessionFunction
  | .request | .upload => .data
  | .download => .download
  | .streamDownload => .bytes

variable {Route Request : Type}

/-- A task made by `dataTask(with:)`. -/
structure DataTask (Request : Type) where
  request : Request
  /-- it has been resumed, and was not cancelled then: its request is out -/
  started : Bool
  cancelled : Bool
  deriving DecidableEq, Repr

/-- A task that an awaited `URLSession` function made and started. -/
structure Transfer (Request : Type) where
  function : SessionFunction
  request : Request
  cancelled : Bool
  deriving DecidableEq, Repr

/-- Where a call is. -/
inductive CallPhase (Route Request : Type)
  | called (route : Route)
  /-- `buildRequest` returned; `task = session.dataTask(with: request)` is next -/
  | built (request : Request)
  /-- the data task is stored; the awaited function is next -/
  | stored (request : Request)
  | awaiting (request : Request)
  /-- the transfer has arrived; `self.task?.resume()` and the return are next -/
  | arrived (request : Request)
  | returned (request : Request)
  /-- the transfer failed and its error was thrown -/
  | threw (request : Request)
  /-- `buildRequest` threw -/
  | refused
  deriving DecidableEq, Repr

structure RouterCall (Route Request : Type) where
  method : RouterMethod
  phase : CallPhase Route Request
  deriving DecidableEq, Repr

structure RouterState (Route Request : Type) where
  /-- the router's `task` -/
  task : Option ℕ
  dataTasks : List (DataTask Request)
  transfers : List (Transfer Request)
  calls : List (RouterCall Route Request)
  deriving DecidableEq, Repr

def RouterState.launch : RouterState Route Request := ⟨none, [], [], []⟩

inductive RouterEvent (Route : Type)
  | call (method : RouterMethod) (route : Route)
  /-- the next statement of call `i` -/
  | advance (i : ℕ)
  /-- the network answers the transfer that call `i` awaits -/
  | network (i : ℕ) (succeeds : Bool)
  | cancel
  deriving DecidableEq, Repr

/-- `URLSessionTask.resume()`. -/
def DataTask.resume (t : DataTask Request) : DataTask Request :=
  { t with started := t.started || !t.cancelled }

/-- `self.task?.resume()`. -/
def RouterState.resumeTask (s : RouterState Route Request) : RouterState Route Request :=
  match s.task with
  | none => s
  | some i => { s with dataTasks := s.dataTasks.modify i .resume }

/-- `Router.cancel()`. -/
def RouterState.cancel (s : RouterState Route Request) : RouterState Route Request :=
  match s.task with
  | none => s
  | some i => { s with dataTasks := s.dataTasks.modify i fun t => { t with cancelled := true } }

def RouterState.setPhase (s : RouterState Route Request) (i : ℕ) (c : RouterCall Route Request)
    (phase : CallPhase Route Request) : RouterState Route Request :=
  { s with calls := s.calls.set i { c with phase := phase } }

/-- The next statement of a call that waits for nothing. -/
def RouterState.advance (buildRequest : Route → Option Request) (s : RouterState Route Request) (i : ℕ)
    (c : RouterCall Route Request) : Option (RouterState Route Request) :=
  match c.phase with
  | .called route =>
    match buildRequest route with
    | some request => some (s.setPhase i c (.built request))
    | none => some (s.setPhase i c .refused)
  -- whatever `task` held is dropped, but not cancelled
  | .built request =>
    some { s.setPhase i c (.stored request) with
      task := some s.dataTasks.length
      dataTasks := s.dataTasks ++ [⟨request, false, false⟩] }
  | .stored request =>
    some { s.setPhase i c (.awaiting request) with
      transfers := s.transfers ++ [⟨c.method.awaits, request, false⟩] }
  | .arrived request => some (s.resumeTask.setPhase i c (.returned request))
  | _ => none

/-- **One event.** `buildRequest` is the router's, `none` where it throws. -/
def RouterState.step (buildRequest : Route → Option Request) (s : RouterState Route Request)
    (e : RouterEvent Route) : Option (RouterState Route Request) :=
  match e with
  | .call method route => some { s with calls := s.calls ++ [⟨method, .called route⟩] }
  | .advance i => s.calls[i]?.bind (s.advance buildRequest i)
  | .network i succeeds =>
    match s.calls[i]? with
    | some ⟨method, .awaiting request⟩ =>
      some (s.setPhase i ⟨method, .awaiting request⟩
        (if succeeds then .arrived request else .threw request))
    | _ => none
  | .cancel => some s.cancel

/-- The requests of the tasks that have been started, each once for each task. -/
def RouterState.sent (s : RouterState Route Request) : List Request :=
  s.transfers.map (·.request) ++ (s.dataTasks.filter (·.started)).map (·.request)

end ArtExhibition
