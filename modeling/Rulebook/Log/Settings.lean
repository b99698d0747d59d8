import Rulebook.Log.Filter.Reader
import Rulebook.Log.Format

/-!
Settings of a log, and the lines that a log with these settings has. Only what the filter shows is
written, and of the spans around it only those that the filter shows.
-/

namespace Rulebook.Log

structure Settings where
  verbosity : Verbosity := .info
  /-- Whether a filter from the environment takes the place of the verbosity. -/
  useEnvironment : Bool := true
  /-- Whether a writer that has a clock puts the time before a line. -/
  timestamps : Bool := false
  /-- Whether lines name the area of an event. -/
  areas : Bool := false
  /-- Whether the ends of spans are written, in a format that has lines for them. -/
  spanEnds : Bool := true
  /-- Whether a writer on a terminal may use colours. -/
  colors : Bool := true
  format : Format := .pretty
  /-- The file that lines are added to, in place of standard error. -/
  file : Option Path := none
deriving DecidableEq, Repr, Inhabited

namespace Settings

/-- The filter of a log: a valid one from the environment, if it may be used, or else the one of the
verbosity. -/
def filter (settings : Settings) (environment : Option String) : Filter :=
  match (if settings.useEnvironment then environment.bind Filter.ofText? else none) with
  | some filter => filter
  | none => Filter.ofVerbosity settings.verbosity

def line? (settings : Settings) (filter : Filter) (entry : Entry) : Option String :=
  let around := filter.shownSpans entry.around
  match entry.occurrence with
  | .event event =>
    if filter.shows around event then
      some (settings.format.eventLine settings.areas around event)
    else none
  | .closed span =>
    if settings.spanEnds && filter.showsSpan around span then
      settings.format.closeLine? settings.areas around span
    else none

end Settings

end Rulebook.Log
