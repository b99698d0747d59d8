/-!
How important an event is, and how much a log shows.
-/

namespace Rulebook.Log

inductive Level where
  | error
  | warn
  | info
  | debug
  | trace
deriving DecidableEq, Repr, Inhabited

/-- How much a log shows: nothing, or every level up to one. -/
inductive Verbosity where
  | off
  | error
  | warn
  | info
  | debug
  | trace
deriving DecidableEq, Repr, Inhabited

namespace Level

/-- The least verbosity that shows a level, as a number. -/
def rank : Level → Nat
  | .error => 1
  | .warn => 2
  | .info => 3
  | .debug => 4
  | .trace => 5

def name : Level → String
  | .error => "ERROR"
  | .warn => "WARN"
  | .info => "INFO"
  | .debug => "DEBUG"
  | .trace => "TRACE"

def padded : Level → String
  | .error => "ERROR"
  | .warn => " WARN"
  | .info => " INFO"
  | .debug => "DEBUG"
  | .trace => "TRACE"

end Level

namespace Verbosity

def rank : Verbosity → Nat
  | .off => 0
  | .error => 1
  | .warn => 2
  | .info => 3
  | .debug => 4
  | .trace => 5

/-- The verbosity of a rank; those above the last show everything. -/
def ofRank : Nat → Verbosity
  | 0 => .off
  | 1 => .error
  | 2 => .warn
  | 3 => .info
  | 4 => .debug
  | _ => .trace

def name : Verbosity → String
  | .off => "off"
  | .error => "error"
  | .warn => "warn"
  | .info => "info"
  | .debug => "debug"
  | .trace => "trace"

def all : List Verbosity := [.off, .error, .warn, .info, .debug, .trace]

def ofName? (name : String) : Option Verbosity := all.find? (·.name == name)

def shows (v : Verbosity) (level : Level) : Bool := level.rank ≤ v.rank

def min (v w : Verbosity) : Verbosity := if v.rank ≤ w.rank then v else w

def max (v w : Verbosity) : Verbosity := if v.rank ≤ w.rank then w else v

def loudest (vs : List Verbosity) : Verbosity := vs.foldl max .off

end Verbosity

end Rulebook.Log
