import Mathlib.Data.List.Infix
import Mathlib.Tactic.Common

/-!
# A store behind a buffer

Entries are appended to a buffer, which a flush empties into the store; an append may flush at once.
A restart loses the buffer. What the store holds after any events is read off the events
(`run_eq`): an entry is `Kept` where it flushes at once or a flush comes before the next restart, and
it is `Open` where neither has come.
-/

namespace Machine

variable {α : Type*}

structure Buffer (α : Type*) where
  stored : List α
  buffered : List α

inductive BufferEvent (α : Type*)
  | append (entry : α) (flushed : Bool)
  | flush
  | restart

namespace BufferEvent

/-- It empties the buffer into the store. -/
def flushes : BufferEvent α → Bool
  | append _ flushed => flushed
  | flush => true
  | restart => false

def restarts : BufferEvent α → Bool
  | restart => true
  | append _ _ | flush => false

end BufferEvent

/-- There is a flush before the first restart. -/
def flushedIn (events : List (BufferEvent α)) : Bool :=
  (events.takeWhile fun e => !e.restarts).any BufferEvent.flushes

/-- There is neither. -/
def openIn (events : List (BufferEvent α)) : Bool := events.all fun e => !e.flushes && !e.restarts

/-- The entry that the first of the events leaves in the store. -/
def kept : List (BufferEvent α) → Option α
  | .append entry flushed :: later => if flushed || flushedIn later then some entry else none
  | _ => none

/-- The entry that the first of the events leaves in the buffer. -/
def leftOpen : List (BufferEvent α) → Option α
  | .append entry flushed :: later => if !flushed && openIn later then some entry else none
  | _ => none

namespace Buffer

def after (b : Buffer α) : BufferEvent α → Buffer α
  | .append entry true => ⟨b.stored ++ (b.buffered ++ [entry]), []⟩
  | .append entry false => ⟨b.stored, b.buffered ++ [entry]⟩
  | .flush => ⟨b.stored ++ b.buffered, []⟩
  | .restart => ⟨b.stored, []⟩

def run (b : Buffer α) (events : List (BufferEvent α)) : Buffer α := events.foldl after b

/-- **What any events leave**: in the store, the buffer if it is flushed, and the entries that are
kept; in the buffer, what is open. -/
theorem run_eq (events : List (BufferEvent α)) (b : Buffer α) :
    b.run events =
      ⟨b.stored ++ (if flushedIn events then b.buffered else []) ++ events.tails.filterMap kept,
        (if openIn events then b.buffered else []) ++ events.tails.filterMap leftOpen⟩ := by
  induction events generalizing b with
  | nil => simp [run, flushedIn, openIn, kept, leftOpen, List.filterMap_cons]
  | cons e events ih =>
    rw [run, List.foldl_cons]
    change (b.after e).run events = _
    rw [ih, List.tails_cons, List.filterMap_cons, List.filterMap_cons]
    cases e with
    | append entry flushed =>
      cases flushed with
      | true => simp [after, flushedIn, openIn, kept, leftOpen, BufferEvent.flushes, BufferEvent.restarts]
      | false =>
        have hflushed : flushedIn (.append entry false :: events) = flushedIn events := by
          simp [flushedIn, BufferEvent.flushes, BufferEvent.restarts]
        have hopen : openIn (.append entry false :: events) = openIn events := by
          simp [openIn, BufferEvent.flushes, BufferEvent.restarts]
        rw [hflushed, hopen]
        cases hf : flushedIn events <;> cases ho : openIn events <;>
          simp [after, kept, leftOpen, hf, ho]
    | flush => simp [after, flushedIn, openIn, kept, leftOpen, BufferEvent.flushes, BufferEvent.restarts]
    | restart => simp [after, flushedIn, openIn, kept, leftOpen, BufferEvent.flushes, BufferEvent.restarts]

end Buffer

end Machine
