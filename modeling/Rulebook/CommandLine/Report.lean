import Rulebook.CommandLine.Arguments
import Rulebook.CommandLine.Table
import Rulebook.Run.Basic

/-!
What a command tells at its end: after a run that succeeds a table of what was made, a row for every
language and their totals; after one that fails what went wrong.
-/

namespace Rulebook.CommandLine

open Rulebook.Run (Summary Failure)

/-! ## Success -/

def columns : List (String × Side) := [
  ("Language", .left), ("Directory", .left), ("Fetched", .right), ("Emitted", .right),
  ("Activated", .right), ("Files", .right)]

/-- What stands where there is nothing to tell. -/
def nothing : String := "-"

def countCell : Option Nat → String
  | some n => toString n
  | none => nothing

def languageRow (s : Summary) : List String := [
  s.language, s.directory.display, toString s.fetched, toString s.emitted,
  countCell s.activations, toString s.files.length]

def total (counts : List Nat) : Nat := counts.foldr (· + ·) 0

/-- The activations of all languages, if any of them has activations. -/
def totalActivations (summaries : List Summary) : Option Nat :=
  match summaries.filterMap (·.activations) with
  | [] => none
  | counts => some (total counts)

def totalRow (summaries : List Summary) : List String := [
  "TOTAL", nothing, toString (total (summaries.map (·.fetched))),
  toString (total (summaries.map (·.emitted))), countCell (totalActivations summaries),
  toString (total (summaries.map (·.files.length)))]

def summaryTable (summaries : List Summary) : Table where
  columns := columns
  rows := summaries.map languageRow ++ [totalRow summaries]

def headLines (arguments : Arguments) : List String := [
  "Mode: " ++ arguments.request.mode.name,
  "Output: " ++ arguments.request.target.display
    ++ (if arguments.dryRun then " (dry run, nothing written)" else "")]

def report (arguments : Arguments) (summaries : List Summary) : String :=
  String.join ((headLines arguments ++ (summaryTable summaries).lines).map (· ++ "\n"))

/-! ## Failure -/

def attempt (arguments : Arguments) : String :=
  (match arguments.request.mode with
    | .registrars _ => "generate registrars from "
    | .ruleData => "export rule data from ") ++ arguments.rules.display

/-- What is told of a run that fails: what was tried, why it failed, and the cause of that. -/
def failureLine (arguments : Arguments) (failure : Failure) : String :=
  let cause := match failure.cause? with
    | some cause => [cause.message]
    | none => []
  "error: " ++ ": ".intercalate (attempt arguments :: failure.message :: cause) ++ "\n"

end Rulebook.CommandLine
