import Rulebook.Json.Printer
import Rulebook.Log.Filter
import Rulebook.Text.Quoted

/-!
How events and the ends of spans are written, a line each. The two formats for people have no lines
for the ends of spans; the one for programs, JSON, has.
-/

namespace Rulebook.Log

open Rulebook.Json (Value)

inductive Format where
  | pretty
  | compact
  | json
deriving DecidableEq, Repr, Inhabited

namespace Format

def name : Format → String
  | .pretty => "pretty"
  | .compact => "compact"
  | .json => "json"

def all : List Format := [.pretty, .compact, .json]

def ofName? (name : String) : Option Format := all.find? (·.name == name)

/-! ## Formats for people -/

def twoDigits (n : Nat) : List Char := [Text.Hex.lower (n / 16), Text.Hex.lower (n % 16)]

/-- A character of a message. Those that control a terminal are written by their number. -/
def messageChar (c : Char) : List Char :=
  if c = '\x07' ∨ c = '\x08' ∨ c = '\x0c' ∨ c = '\x1b' ∨ c = '\x7f' then
    '\\' :: 'x' :: twoDigits c.toNat
  else if '\u0080' ≤ c ∧ c ≤ '\u009f' then Text.Quoted.numbered c
  else [c]

def messageText (message : String) : String :=
  String.ofList (message.toList.flatMap messageChar)

def fieldText (field : Field) : String :=
  field.name ++ "=" ++ match field.value with
    | .plain text => text
    | .quoted text => Text.Quoted.quote text
    | .count n => toString n

def eventText (event : Event) : String :=
  " ".intercalate (messageText event.message :: event.fields.map fieldText)

def areaText (areas : Bool) (area : Area) : String := if areas then area.name ++ ": " else ""

/-- A line for an event: the level, the spans with their fields, the message, its fields. -/
def prettyLine (areas : Bool) (around : List Span) (event : Event) : String :=
  let spans := around.map fun span =>
    span.name ++ "\x7b" ++ fieldText span.field ++ "\x7d:"
  event.level.padded ++ " " ++ String.join spans ++ (if spans.isEmpty then "" else " ")
    ++ areaText areas event.area ++ eventText event

/-- A line for an event: the level, the names of the spans, the message, its fields and theirs. -/
def compactLine (areas : Bool) (around : List Span) (event : Event) : String :=
  let spans := around.map (·.name ++ ":")
  " ".intercalate
    ((event.level.padded ++ " " ++ String.join spans ++ (if spans.isEmpty then "" else " ")
      ++ areaText areas event.area ++ eventText event) :: around.map (fieldText ·.field))

/-! ## The format for programs -/

def fieldMember (field : Field) : String × Value :=
  (field.name, match field.value with
    | .plain text => .string text
    | .quoted text => .string text
    | .count n => .number (.integer n))

def spanValue (span : Span) : Value :=
  .object [fieldMember span.field, ("name", .string span.name)]

/-- The members of a record that tell what it is around: the innermost span, and all of them. -/
def spanMembers (innermost : Option Span) (around : List Span) : List (String × Value) :=
  match innermost with
  | none => []
  | some span => [("span", spanValue span), ("spans", .array (around.map spanValue))]

def areaMembers (areas : Bool) (area : Area) : List (String × Value) :=
  if areas then [("target", .string area.name)] else []

def record (level : Level) (fields others : List (String × Value)) : Value :=
  .object (("level", .string level.name) :: ("fields", .object fields) :: others)

/-- The record of an event, which names the innermost span around it. -/
def eventRecord (areas : Bool) (around : List Span) (event : Event) : Value :=
  record event.level (("message", .string event.message) :: event.fields.map fieldMember)
    (areaMembers areas event.area ++ spanMembers around.getLast? around)

def closeRecord (areas : Bool) (around : List Span) (span : Span) : Value :=
  record Filter.spanLevel [("message", .string "close")]
    (areaMembers areas span.area ++ spanMembers (some span) around)

/-! ## All formats -/

def eventLine (format : Format) (areas : Bool) (around : List Span) (event : Event) : String :=
  match format with
  | .pretty => prettyLine areas around event
  | .compact => compactLine areas around event
  | .json => (eventRecord areas around event).compact

def closeLine? (format : Format) (areas : Bool) (around : List Span) (span : Span) :
    Option String :=
  match format with
  | .pretty => none
  | .compact => none
  | .json => some (closeRecord areas around span).compact

end Format

end Rulebook.Log
