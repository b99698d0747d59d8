import Rulebook.CommandLine.Program
import Rulebook.Proofs.Outcome
import Rulebook.Proofs.Run.Correspondence

/-!
The output of a command. What a program does before its last step reads and changes files and adds
to the log, and nothing of that is output. So the output of a command that succeeds is the report on
the summaries of its run.
-/

namespace Rulebook

open Rulebook.CommandLine
open Rulebook.Log (Entry)
open Rulebook.Run (Summary)

/-- Runs of the same arguments correspond if reading and changing files and reporting do. -/
theorem Correspondence.Changes.runArguments {m n : Type → Type} [Monad m] [Monad n]
    {R : Correspondence m n} {console : Console m} {console' : Console n}
    {write : Entry → m Unit} {write' : Entry → n Unit} (h : R.Changes console.host console'.host)
    (hwrite : ∀ entry, R.rel (write entry) (write' entry)) (arguments : Arguments)
    (around : List Log.Span) :
    R.rel (CommandLine.runArguments console arguments ⟨around, write⟩)
      (CommandLine.runArguments console' arguments ⟨around, write'⟩) := by
  have hreports : R.Reports write write' := fun entry _ => hwrite entry
  have hsink : R.Hands write write' (sink console arguments) (sink console' arguments) := by
    unfold sink
    split
    · exact Correspondence.hands_dryRun hwrite
    · exact Correspondence.hands_disk h hwrite
  have hsource := Correspondence.fetches_checkout h.toReads hreports arguments.rules
  exact Correspondence.within hreports around (by exact nofun)
    (Correspondence.runLanguages hreports hsource hsink arguments.request _ _)

namespace CommandLine

/-! ## What is no output -/

/-- A computation adds nothing to the output. -/
def KeepsOut {α : Type} (x : StateM Machine α) : Prop :=
  ∀ machine, (x.run machine).2.out = machine.out

section KeepsOut

variable {α β : Type}

theorem keepsOut_pure (a : α) : KeepsOut (pure a) := fun _ => rfl

theorem KeepsOut.bind {x : StateM Machine α} {f : α → StateM Machine β} (h : KeepsOut x)
    (hf : ∀ a, KeepsOut (f a)) : KeepsOut (x >>= f) := fun machine =>
  (hf (x.run machine).1 (x.run machine).2).trans (h machine)

theorem keepsOut_onFiles (act : StateM FileTree α) : KeepsOut (Machine.onFiles act) := fun _ => rfl

/-- Of two computations only the first one counts. -/
def keepingOut : Correspondence (StateM Machine) (StateM Machine) where
  rel x _ := KeepsOut x
  rel_pure := keepsOut_pure
  rel_bind := KeepsOut.bind

theorem changes_keepingOut :
    keepingOut.Changes Machine.console.host Machine.console.host where
  isDirectory _ := keepsOut_onFiles _
  isFile _ := keepsOut_onFiles _
  list _ := keepsOut_onFiles _
  read _ := keepsOut_onFiles _
  makeDirectory _ := keepsOut_onFiles _
  write _ _ := keepsOut_onFiles _

theorem keepsOut_openLog (settings : Log.Settings) :
    KeepsOut (openLog Machine.console settings) := by
  unfold openLog
  cases settings.file with
  | none => exact keepsOut_pure _
  | some path => exact keepsOut_onFiles _

theorem keepsOut_write (settings : Log.Settings) (environment : Option String) (entry : Entry) :
    KeepsOut ((logger Machine.console settings environment).write entry) := by
  unfold logger writeLine
  dsimp only
  cases settings.line? (settings.filter environment) entry with
  | none => exact keepsOut_pure ()
  | some line =>
    dsimp only
    cases settings.file with
    | none => exact fun _ => rfl
    | some path => exact (keepsOut_onFiles _).bind fun _ => keepsOut_pure ()

theorem keepsOut_runArguments (arguments : Arguments) (environment : Option String) :
    KeepsOut (runArguments Machine.console arguments
      (logger Machine.console arguments.log environment)) := by
  have hwrite : ∀ entry, keepingOut.rel
      ((logger Machine.console arguments.log environment).write entry) (pure ()) :=
    keepsOut_write arguments.log environment
  exact changes_keepingOut.runArguments hwrite arguments []

end KeepsOut

/-! ## Commands that succeed -/

def runLogger (arguments : Arguments) (environment : Option String) : Log.Logger (StateM Machine) :=
  (logger Machine.console arguments.log environment).entered (runSpan arguments.request.mode)

def runOpened (arguments : Arguments) (environment : Option String) :
    StateM Machine (Except Run.Failure (List Summary)) :=
  arguments.request.run (Catalog.checkout Machine.console.host arguments.rules)
    (sink Machine.console arguments) (runLogger arguments environment)

theorem out_execute {arguments : Arguments} {environment : Option String} {machine : Machine}
    (h : ((execute Machine.console environment arguments).run machine).1 = .success) :
    ∃ opened summaries, (openLog Machine.console arguments.log).run machine = (.ok (), opened) ∧
      ((runOpened arguments environment).run opened).1 = .ok summaries ∧
      ((execute Machine.console environment arguments).run machine).2.out =
        machine.out ++ report arguments summaries := by
  obtain ⟨⟨opening, opened⟩, hopen⟩ :
    ∃ outcome, (openLog Machine.console arguments.log).run machine = outcome := ⟨_, rfl⟩
  obtain ⟨⟨result, left⟩, hrun⟩ : ∃ outcome, (runArguments Machine.console arguments
    (logger Machine.console arguments.log environment)).run opened = outcome := ⟨_, rfl⟩
  rw [execute, run_bind_of_run hopen] at h ⊢
  cases opening with
  | error cause => cases h
  | ok =>
    dsimp only at h ⊢
    rw [run_bind_of_run hrun] at h ⊢
    cases result with
    | error failure => cases h
    | ok summaries =>
      have hopened : opened.out = machine.out := by
        rw [← keepsOut_openLog arguments.log machine, hopen]
      have hleft : left.out = opened.out := by
        rw [← keepsOut_runArguments arguments environment opened, hrun]
      -- The end of the span is reported behind the run, whose result that leaves as it is.
      refine ⟨opened, summaries, hopen, congrArg Prod.fst hrun, ?_⟩
      show left.out ++ report arguments summaries = _
      rw [hleft, hopened]

end CommandLine

end Rulebook
