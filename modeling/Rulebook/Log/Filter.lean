import Rulebook.Log.Logger
import Rulebook.Text.Pattern.Basic

/-!
Filters: which events and spans a log shows. A filter is a list of directives. Some are for areas,
by the start of their names, whatever happens there; of these the most specific one decides, and of
equal ones the last. Others choose spans, by their name or by a field that they have: a chosen span
is shown, and everything in it up to the verbosity of the loudest directive that chose it.
-/

namespace Rulebook.Log

/-! ## Directives -/

/-- What the value of a field has to be: a text that fits a pattern, or else no text at all. -/
structure ValueDemand where
  written : String
  pattern : Option Text.Pattern
deriving DecidableEq, Repr, Inhabited

structure FieldDemand where
  name : String
  value : Option ValueDemand
deriving DecidableEq, Repr, Inhabited

/-- How much to show of what a directive is for. The empty start is that of all areas. -/
structure Directive where
  start : String
  span : Option String := none
  field : Option FieldDemand := none
  verbosity : Verbosity
deriving DecidableEq, Repr, Inhabited

structure Filter where
  directives : List Directive
deriving DecidableEq, Repr, Inhabited

def FieldValue.text : FieldValue → String
  | .plain text => text
  | .quoted text => text
  | .count n => toString n

def ValueDemand.isMetBy (demand : ValueDemand) (text : String) : Bool :=
  demand.pattern.any (·.fits text)

def FieldDemand.isFor (demand : FieldDemand) (name : String) : Bool := demand.name == name

namespace Directive

def concerns (d : Directive) (area : Area) : Bool := d.start.toList.isPrefixOf area.name.toList

def choosesSpans (d : Directive) : Bool := d.span.isSome || d.field.isSome

/-- Whether a directive is for areas, whatever happens there: it names no span and no value. -/
def isGeneral (d : Directive) : Bool := d.span.isNone && !d.field.any (·.value.isSome)

def demandsValue (d : Directive) : Bool := d.field.any (·.value.isSome)

def concernsEvent (d : Directive) (event : Event) : Bool :=
  d.concerns event.area && d.field.all fun demand =>
    demand.isFor "message" || event.fields.any fun field => demand.isFor field.name

def concernsSpan (d : Directive) (span : Span) : Bool :=
  d.concerns span.area && d.span.all (· == span.name)
    && d.field.all (·.isFor span.field.name)

def isMetBy (d : Directive) (span : Span) : Bool :=
  d.field.all fun demand => demand.value.all (·.isMetBy span.field.value.text)

def sameAim (d e : Directive) : Bool := d.start == e.start && d.span == e.span && d.field == e.field

/-- Whether a directive is at least as specific as another: its start is longer, or it asks for a
field, or for one whose name comes later. -/
def atLeastAsSpecific (d e : Directive) : Bool :=
  if d.start.utf8ByteSize = e.start.utf8ByteSize then
    match d.field, e.field with
    | _, none => true
    | none, some _ => false
    | some f, some g => !(f.name < g.name)
  else e.start.utf8ByteSize < d.start.utf8ByteSize

end Directive

namespace Filter

def spanLevel : Level := .info

/-! ## Areas -/

/-- The one of two directives that decides, the second being the later one. -/
def decisive (held : Option Directive) (d : Directive) : Option Directive :=
  match held with
  | none => some d
  | some h => if d.atLeastAsSpecific h then some d else some h

/-- The verbosity of the directive that decides: off if there is none. -/
def decided (directives : List Directive) : Verbosity :=
  match directives.foldl decisive none with
  | none => .off
  | some d => d.verbosity

def general (filter : Filter) : List Directive := filter.directives.filter (·.isGeneral)

def eventVerbosity (filter : Filter) (event : Event) : Verbosity :=
  decided (filter.general.filter (·.concernsEvent event))

def spanVerbosity (filter : Filter) (span : Span) : Verbosity :=
  decided (filter.general.filter (·.concerns span.area))

/-! ## Chosen spans -/

/-- Directives without those that a later one is for the same as. -/
def latest : List Directive → List Directive
  | [] => []
  | d :: rest => if rest.any d.sameAim then latest rest else d :: latest rest

def choosing (filter : Filter) (span : Span) : List Directive :=
  (latest (filter.directives.filter (·.choosesSpans))).filter (·.concernsSpan span)

def insideVerbosity (filter : Filter) (span : Span) : Verbosity :=
  Verbosity.loudest (((filter.choosing span).filter (·.isMetBy span)).map (·.verbosity))

def insideShows (filter : Filter) (outer : List Span) (level : Level) : Bool :=
  outer.any fun span => (filter.insideVerbosity span).shows level

/-- The most that a filter can show: everything, if it depends on values. -/
def reach (filter : Filter) : Verbosity :=
  if filter.directives.any (·.demandsValue) then .trace
  else Verbosity.loudest (filter.directives.map (·.verbosity))

/-! ## What is shown -/

def shows (filter : Filter) (outer : List Span) (event : Event) : Bool :=
  (filter.eventVerbosity event).shows event.level || filter.insideShows outer event.level

def showsSpan (filter : Filter) (outer : List Span) (span : Span) : Bool :=
  -- A filter that can show nothing of their level has no spans, whatever chooses them.
  filter.reach.shows spanLevel &&
    (!(filter.choosing span).isEmpty || (filter.spanVerbosity span).shows spanLevel
      || filter.insideShows outer spanLevel)

/-- The spans that are shown, of spans of which each is in those before it. -/
def shownSpans (filter : Filter) (spans : List Span) : List Span :=
  spans.foldl (fun outer span => if filter.showsSpan outer span then outer ++ [span] else outer) []

/-! ## The filter of a verbosity -/

def ownAreas : List String :=
  ["rspec", "rspec_cli", "rspec_ingest", "rspec_model", "rspec_normalization", "rspec_output"]

/-- Shows this program's areas with a verbosity, and of others warnings at most. -/
def ofVerbosity (v : Verbosity) : Filter :=
  ⟨⟨"", none, none, Verbosity.min .warn v⟩ :: ownAreas.map fun start => ⟨start, none, none, v⟩⟩

end Filter

end Rulebook.Log
