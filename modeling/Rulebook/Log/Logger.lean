import Rulebook.Log.Event

/-!
Entries of a log: events inside spans, and the ends of spans. A span is a stretch of a run with a
name and a field of its own; what happens in it happens inside all the spans around it too.
-/

namespace Rulebook.Log

structure Span where
  name : String
  area : Area
  field : Field
deriving DecidableEq, Repr, Inhabited

inductive Occurrence where
  | event (event : Event)
  /-- The end of a span. -/
  | closed (span : Span)
deriving DecidableEq, Repr

/-- What happened, and the spans around it, the outermost first. -/
structure Entry where
  around : List Span
  occurrence : Occurrence
deriving DecidableEq, Repr

structure Logger (m : Type → Type) where
  around : List Span
  write : Entry → m Unit

namespace Logger

variable {m : Type → Type}

def silent [Monad m] : Logger m := ⟨[], fun _ => pure ()⟩

def lift {n : Type → Type} (f : {α : Type} → m α → n α) (log : Logger m) : Logger n :=
  ⟨log.around, fun entry => f (log.write entry)⟩

def report (log : Logger m) (event : Event) : m Unit := log.write ⟨log.around, .event event⟩

def reportAll [Monad m] (log : Logger m) : List Event → m Unit
  | [] => pure ()
  | event :: rest => do
    log.report event
    log.reportAll rest

def entered (log : Logger m) (span : Span) : Logger m := { log with around := log.around ++ [span] }

/-- Does something inside a span, and reports the end of the span after it. -/
def within [Monad m] {α : Type} (log : Logger m) (span : Span) (body : Logger m → m α) : m α := do
  let result ← body (log.entered span)
  log.write ⟨log.around, .closed span⟩
  return result

end Logger

end Rulebook.Log
