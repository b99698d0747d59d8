import Rulebook.Catalog.Checkout
import Rulebook.CommandLine.Report

/-!
The program: reads its arguments, opens the log, runs, and tells what came of it. It only ever asks
a `Console`, so that the same program runs on a `Machine` and on a real one.
-/

namespace Rulebook.CommandLine

open Rulebook.Log (Logger Entry)

structure Console (m : Type → Type) where
  host : Host m
  out : String → m Unit
  err : String → m Unit

inductive Status where
  | success
  | failure
  | misuse
deriving DecidableEq, Repr, Inhabited

def Status.code : Status → UInt8
  | .success => 0
  | .failure => 1
  | .misuse => 2

def programName : String := "rspec"

def version : String := "0.1.0"

def usage : String :=
  "usage: " ++ programName ++ " [options] <" ++ "|".intercalate (Command.all.map (·.name))
    ++ "> [options]\n"

/-! ## Log -/

def runSpan (mode : Run.Mode) : Log.Span := ⟨"run", .command, ⟨"mode", .quoted mode.name⟩⟩

variable {m : Type → Type} [Monad m]

/-- Creates the file of the log unless it is there, so that lines can be added to it. -/
def openLog (console : Console m) (settings : Log.Settings) : m (Except IoError Unit) :=
  match settings.file with
  | none => pure (.ok ())
  | some path => console.host.append path []

/-- Adds a line to the log. That it cannot be added is no reason to stop. -/
def writeLine (console : Console m) (settings : Log.Settings) (line : String) : m Unit :=
  match settings.file with
  | none => console.err (line ++ "\n")
  | some path => do
    let _ ← console.host.append path (Text.Utf8.encode (line ++ "\n"))
    return ()

def logger (console : Console m) (settings : Log.Settings) (environment : Option String) :
    Logger m where
  around := []
  write entry :=
    match settings.line? (settings.filter environment) entry with
    | none => pure ()
    | some line => writeLine console settings line

/-! ## Program -/

def sink (console : Console m) (arguments : Arguments) : Sink m :=
  if arguments.dryRun then Sink.dryRun else Sink.disk console.host

def runArguments (console : Console m) (arguments : Arguments) (log : Logger m) :
    m (Except Run.Failure (List Run.Summary)) :=
  log.within (runSpan arguments.request.mode) fun log =>
    arguments.request.run (Catalog.checkout console.host arguments.rules) (sink console arguments)
      log

/-- Does what arguments ask for; `environment` is the filter that the environment has for logs. -/
def execute (console : Console m) (environment : Option String) (arguments : Arguments) :
    m Status := do
  match ← openLog console arguments.log with
  -- Without its log the program does not start: nothing is fetched, nothing is written.
  | .error cause =>
    console.err ("error: failed to initialize logging: " ++ cause.message ++ "\n")
    return .failure
  | .ok () =>
    match ← runArguments console arguments (logger console arguments.log environment) with
    | .ok summaries =>
      console.out (report arguments summaries)
      return .success
    | .error failure =>
      console.err (failureLine arguments failure)
      return .failure

def runWords (console : Console m) (environment : Option String) (words : List String) :
    m Status := do
  match Arguments.ofWords words with
  | .ok arguments => execute console environment arguments
  | .error .version =>
    console.out (programName ++ " " ++ version ++ "\n")
    return .success
  | .error .help =>
    console.out usage
    return .success
  | .error (.usage e) =>
    console.err ("error: " ++ e.message ++ "\n" ++ usage)
    return .misuse

/-! ## Machines -/

structure Machine where
  files : FileTree
  out : String := ""
  err : String := ""
deriving Inhabited

namespace Machine

def onFiles {α : Type} (act : StateM FileTree α) : StateM Machine α := fun machine =>
  let (result, files) := act.run machine.files
  (result, { machine with files })

def console : Console (StateM Machine) where
  host := FileTree.host.lift onFiles
  out text := modify fun machine => { machine with out := machine.out ++ text }
  err text := modify fun machine => { machine with err := machine.err ++ text }

def execute (machine : Machine) (environment : Option String) (words : List String) :
    Status × Machine :=
  (runWords console environment words).run machine

end Machine

end Rulebook.CommandLine
