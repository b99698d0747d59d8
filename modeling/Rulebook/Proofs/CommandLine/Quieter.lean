import Rulebook.Proofs.CommandLine.Output
import Rulebook.Proofs.CommandLine.Verbosity
import Rulebook.Proofs.Log.Verbosity
import Rulebook.Proofs.Run.Preview

/-!
One command line with two verbosities. Two runs that differ in verbosity alone read the same, do the
same and report the same; only what their logs show differs. The step from one computation to the
next keeps that, and so whole runs do.
-/

namespace Rulebook.CommandLine

open Rulebook.Log (Entry Verbosity linesOf isWithin)

/-! ## Side by side -/

/-- Two computations on machines with the same files do the same, and their logs show of the same
entries what the two verbosities let through. -/
def Alongside (settings : Log.Settings) (v w : Verbosity) {α : Type} (x y : StateM Machine α) :
    Prop :=
  ∀ machine machine', machine.files = machine'.files → ∃ a files entries,
    x.run machine = (a, { machine with
      files, err := machine.err ++ linesOf (settings.recordsOf v entries) }) ∧
    y.run machine' = (a, { machine' with
      files, err := machine'.err ++ linesOf (settings.recordsOf w entries) })

section Alongside

variable {settings : Log.Settings} {v w : Verbosity} {α β : Type}

theorem alongside_pure (a : α) : Alongside settings v w (pure a) (pure a) := by
  intro machine machine' hfiles
  refine ⟨a, machine.files, [], ?_, ?_⟩
  · show (a, machine) = _
    simp
  · show (a, machine') = _
    simp [hfiles]

theorem Alongside.bind {x y : StateM Machine α} {f g : α → StateM Machine β}
    (h : Alongside settings v w x y) (hf : ∀ a, Alongside settings v w (f a) (g a)) :
    Alongside settings v w (x >>= f) (y >>= g) := by
  intro machine machine' hfiles
  obtain ⟨a, files, entries, hx, hy⟩ := h machine machine' hfiles
  -- Both go on with the same value and the same files, whatever has been logged.
  obtain ⟨b, files', others, hfx, hgy⟩ := hf a
    { machine with files, err := machine.err ++ linesOf (settings.recordsOf v entries) }
    { machine' with files, err := machine'.err ++ linesOf (settings.recordsOf w entries) } rfl
  refine ⟨b, files', entries ++ others, ?_, ?_⟩
  · rw [run_bind_of_run hx, hfx]
    simp [String.append_assoc]
  · rw [run_bind_of_run hy, hgy]
    simp [String.append_assoc]

/-- What is done to files has no part in the log. -/
theorem alongside_onFiles (act : StateM FileTree α) :
    Alongside settings v w (Machine.onFiles act) (Machine.onFiles act) := by
  intro machine machine' hfiles
  refine ⟨(act.run machine.files).1, (act.run machine.files).2, [], ?_, ?_⟩
  · rw [Log.Settings.recordsOf_nil, Log.linesOf_nil, String.append_empty]
    rfl
  · rw [Log.Settings.recordsOf_nil, Log.linesOf_nil, String.append_empty, hfiles]
    rfl

def alongside (settings : Log.Settings) (v w : Verbosity) :
    Correspondence (StateM Machine) (StateM Machine) where
  rel := Alongside settings v w
  rel_pure := alongside_pure
  rel_bind := Alongside.bind

theorem changes_onFiles :
    (alongside settings v w).Changes Machine.console.host Machine.console.host where
  isDirectory _ := alongside_onFiles _
  isFile _ := alongside_onFiles _
  list _ := alongside_onFiles _
  read _ := alongside_onFiles _
  makeDirectory _ := alongside_onFiles _
  write _ _ := alongside_onFiles _

end Alongside

/-! ## Runs -/

def Arguments.withVerbosity (arguments : Arguments) (v : Verbosity) : Arguments :=
  { arguments with log := { arguments.log with verbosity := v, useEnvironment := false } }

section Runs

variable {arguments : Arguments} (hformat : arguments.log.format = .json)
  (hfile : arguments.log.file = none) (v w : Verbosity) (environment environment' : Option String)

include hformat hfile

/-- An entry is shown as far as a verbosity lets it through. -/
theorem run_write_withVerbosity (entry : Entry) (machine : Machine) :
    ((logger Machine.console (arguments.withVerbosity v).log environment).write entry).run
        machine =
      ((), { machine with
        err := machine.err ++ linesOf (arguments.log.recordsOf v [entry]) }) := by
  have hformat' : (arguments.withVerbosity v).log.format = .json := hformat
  have hfile' : (arguments.withVerbosity v).log.file = none := hfile
  rw [run_write hformat' hfile', Log.Settings.recordsOf_singleton]
  rfl

theorem alongside_write (entry : Entry) :
    Alongside arguments.log v w
      ((logger Machine.console (arguments.withVerbosity v).log environment).write entry)
      ((logger Machine.console (arguments.withVerbosity w).log environment').write entry) := by
  intro machine machine' hfiles
  refine ⟨(), machine.files, [entry], ?_, ?_⟩
  · rw [run_write_withVerbosity hformat hfile]
  · rw [run_write_withVerbosity hformat hfile, hfiles]

theorem alongside_runArguments :
    Alongside arguments.log v w
      (runArguments Machine.console (arguments.withVerbosity v)
        (logger Machine.console (arguments.withVerbosity v).log environment))
      (runArguments Machine.console (arguments.withVerbosity w)
        (logger Machine.console (arguments.withVerbosity w).log environment')) := by
  have hwrite := alongside_write hformat hfile v w environment environment'
  have hchanges : (alongside arguments.log v w).Changes Machine.console.host Machine.console.host :=
    changes_onFiles
  exact hchanges.runArguments hwrite arguments []

/-- How a run ends: well and without a word, or with one line about its failure. -/
def Ends (arguments : Arguments) (status : Status) (error : String) : Prop :=
  (status = .success ∧ error = "") ∨
    status = .failure ∧ ∃ failure, error = failureLine arguments failure

theorem run_execute_withVerbosity (machine : Machine) :
    ∃ status files out entries error, Ends arguments status error ∧
      (execute Machine.console environment (arguments.withVerbosity v)).run machine =
        (status, {
          files
          out := machine.out ++ out
          err := machine.err ++ (linesOf (arguments.log.recordsOf v entries) ++ error) }) ∧
      (execute Machine.console environment' (arguments.withVerbosity w)).run machine =
        (status, {
          files
          out := machine.out ++ out
          err := machine.err ++ (linesOf (arguments.log.recordsOf w entries) ++ error) }) := by
  obtain ⟨result, files, entries, hv, hw⟩ :=
    alongside_runArguments hformat hfile v w environment environment' machine machine rfl
  -- There is no file to open, so the log is ready.
  have hopen (u : Verbosity) :
      (openLog Machine.console (arguments.withVerbosity u).log).run machine =
        (.ok (), machine) := by
    have hfile' : (arguments.withVerbosity u).log.file = none := hfile
    rw [openLog, hfile']
    rfl
  cases result with
  | error failure =>
    refine ⟨.failure, files, "", entries, failureLine arguments failure,
      Or.inr ⟨rfl, failure, rfl⟩, ?_, ?_⟩
    · rw [execute, run_bind_of_run (hopen v), run_bind_of_run hv, ← String.append_assoc,
        String.append_empty]
      rfl
    · rw [execute, run_bind_of_run (hopen w), run_bind_of_run hw, ← String.append_assoc,
        String.append_empty]
      rfl
  | ok summaries =>
    refine ⟨.success, files, report arguments summaries, entries, "", Or.inl ⟨rfl, rfl⟩, ?_, ?_⟩
    · rw [execute, run_bind_of_run (hopen v), run_bind_of_run hv, String.append_empty]
      rfl
    · rw [execute, run_bind_of_run (hopen w), run_bind_of_run hw, String.append_empty]
      rfl

end Runs

/-! ## Command lines -/

/-- Arguments with the same words apart from those about verbosity differ in nothing else. -/
theorem eq_withVerbosity {quiet loud : List String} {arguments arguments' : Arguments}
    (hquiet : Arguments.ofWords quiet = .ok arguments)
    (hloud : Arguments.ofWords loud = .ok arguments') (hgiven : hasVerbosity loud = true)
    (hsame : withoutVerbosity quiet = withoutVerbosity loud) :
    arguments' = arguments.withVerbosity arguments'.log.verbosity := by
  have henvironment : arguments'.log.useEnvironment = false := by
    rw [useEnvironment_eq hloud, hgiven]
    rfl
  have hopen := (ofWords_withoutVerbosity hquiet).symm.trans
    ((congrArg Arguments.ofWords hsame).trans (ofWords_withoutVerbosity hloud))
  obtain ⟨log, rules, request, dryRun⟩ := arguments
  obtain ⟨log', rules', request', dryRun'⟩ := arguments'
  obtain ⟨verbosity, use, timestamps, areas, ends, colors, format, file⟩ := log
  obtain ⟨verbosity', use', timestamps', areas', ends', colors', format', file'⟩ := log'
  cases henvironment
  cases hopen
  rfl

theorem execute_of_hasVerbosity {words : List String} (h : hasVerbosity words = true)
    (machine : Machine) (environment environment' : Option String) :
    machine.execute environment words = machine.execute environment' words := by
  unfold Machine.execute runWords
  cases hwords : Arguments.ofWords words with
  | error stop => cases stop <;> rfl
  | ok arguments =>
    have hgiven : arguments.log.useEnvironment = false := by
      rw [useEnvironment_eq hwords, h]
      rfl
    have hlogger : logger Machine.console arguments.log environment =
        logger Machine.console arguments.log environment' := by
      unfold logger Log.Settings.filter
      rw [hgiven]
      rfl
    dsimp only
    unfold execute
    rw [hlogger]

/-- Verbosity only filters. Two command lines with the log in the format for programs on the
standard error that are the same but for the verbosity they give: they end alike, with the same
files, the same output and the same line about a failure, whatever the environment asks of logs; and
the records of the quieter one are those of the louder one whose level is within its verbosity, of
which there are none up to warnings. With a verbosity given, the environment makes no difference to
any command line; and a level that is named decides, whatever else asks for more or less. -/
theorem verbosity_only_filters (machine : Machine) :
    (∀ quiet loud arguments arguments' environment environment',
      Arguments.ofWords quiet = .ok arguments → Arguments.ofWords loud = .ok arguments' →
      hasVerbosity quiet = true → hasVerbosity loud = true →
      withoutVerbosity quiet = withoutVerbosity loud →
      arguments.log.format = .json → arguments.log.file = none →
      arguments.log.verbosity.rank ≤ arguments'.log.verbosity.rank →
      ∃ status files out records error, Ends arguments status error ∧
        machine.execute environment' loud = (status, {
          files
          out := machine.out ++ out
          err := machine.err ++ (linesOf records ++ error) }) ∧
        machine.execute environment quiet = (status, {
          files
          out := machine.out ++ out
          err := machine.err ++
            (linesOf (records.filter (isWithin arguments.log.verbosity)) ++ error) }) ∧
        (arguments.log.verbosity.rank ≤ Verbosity.warn.rank →
          records.filter (isWithin arguments.log.verbosity) = [])) ∧
    (∀ words environment environment', hasVerbosity words = true →
      machine.execute environment words = machine.execute environment' words) ∧
    ∀ words environment arguments, Arguments.ofWords words = .ok arguments →
      hasWord Word.isLevel words = true →
      machine.execute environment (without Word.isCount words) =
        machine.execute environment words := by
  refine ⟨?_, fun words environment environment' h =>
    execute_of_hasVerbosity h machine environment environment', ?_⟩
  · intro quiet loud arguments arguments' environment environment' hquiet hloud hgiven hgiven'
      hsame hformat hfile hrank
    -- Both are one command line with two verbosities, so their runs go alongside and log the same
    -- entries.
    have hself : arguments = arguments.withVerbosity arguments.log.verbosity :=
      eq_withVerbosity hquiet hquiet hgiven rfl
    have hother := eq_withVerbosity hquiet hloud hgiven' hsame
    obtain ⟨status, files, out, entries, error, hends, hv, hw⟩ :=
      run_execute_withVerbosity hformat hfile arguments.log.verbosity arguments'.log.verbosity
        environment environment' machine
    rw [← hself] at hv
    rw [← hother] at hw
    have hrecords := arguments.log.recordsOf_quieter hrank entries
    refine ⟨status, files, out, arguments.log.recordsOf arguments'.log.verbosity entries, error,
      hends, ?_, ?_, fun hwarn => ?_⟩
    · unfold Machine.execute runWords
      rw [hloud]
      exact hw
    · unfold Machine.execute runWords
      rw [hquiet, ← hrecords]
      exact hv
    · rw [← hrecords]
      exact arguments.log.recordsOf_eq_nil hwarn entries
  · intro words environment arguments hwords hlevel
    unfold Machine.execute runWords
    rw [hwords, ofWords_withoutCounts hwords hlevel]

def quietWords : List String := [
  "--log-format", "json", "--log-level", "info", "rule-data", "--rules-dir", "rules",
  "--language-key", "js", "--language-key", "java", "--target-dir", "out"]

/-- The same command line with a lower level, which prevails over the count beside it. -/
def loudWords : List String := [
  "--log-format", "json", "-q", "rule-data", "--rules-dir", "rules", "--language-key", "js",
  "--language-key", "java", "--log-level", "debug", "--target-dir", "out"]

def askedArguments : Arguments where
  log := { colors := false, format := .json }
  rules := .ofText "rules"
  request := { mode := .ruleData, languages := ["js", "java"], target := .ofText "out" }
  dryRun := false

theorem verbosity_only_filters_debug :
    let machine : Machine := { files := Catalog.sharedTree }
    let quiet := askedArguments.withVerbosity .info
    let loud := askedArguments.withVerbosity .debug
    (Arguments.ofWords quietWords = .ok quiet ∧ Arguments.ofWords loudWords = .ok loud) ∧
    (hasVerbosity quietWords = true ∧ hasVerbosity loudWords = true) ∧
    withoutVerbosity quietWords = withoutVerbosity loudWords ∧
    (quiet.log.format = .json ∧ quiet.log.file = none) ∧
    quiet.log.verbosity.rank ≤ loud.log.verbosity.rank ∧
    hasWord Word.isLevel loudWords = true ∧
    (machine.execute (some "trace") quietWords).2.err ≠ "" ∧
    (machine.execute (some "error") loudWords).2.err ≠
      (machine.execute (some "trace") quietWords).2.err ∧
    (∃ status files out records error, Ends quiet status error ∧
      machine.execute (some "error") loudWords =
        (status, { files, out, err := linesOf records ++ error }) ∧
      machine.execute (some "trace") quietWords =
        (status, { files, out, err := linesOf (records.filter (isWithin .info)) ++ error })) ∧
    machine.execute (some "error") loudWords = machine.execute none loudWords ∧
    machine.execute none (without Word.isCount loudWords) = machine.execute none loudWords := by
  intro machine quiet loud
  have hquiet : Arguments.ofWords quietWords = .ok quiet := by rfl
  have hloud : Arguments.ofWords loudWords = .ok loud := by rfl
  have hsame : withoutVerbosity quietWords = withoutVerbosity loudWords := by decide +kernel
  have hshown : (machine.execute (some "trace") quietWords).2.err ≠ "" := by decide +kernel
  have hmore : (machine.execute (some "error") loudWords).2.err ≠
      (machine.execute (some "trace") quietWords).2.err := by decide +kernel
  have hgiven : hasVerbosity quietWords = true ∧ hasVerbosity loudWords = true := by decide +kernel
  have hlevel : hasWord Word.isLevel loudWords = true := by decide +kernel
  have hrank : quiet.log.verbosity.rank ≤ loud.log.verbosity.rank := by decide
  obtain ⟨hfilters, hignores, hdecides⟩ := verbosity_only_filters machine
  refine ⟨⟨hquiet, hloud⟩, hgiven, hsame, ⟨rfl, rfl⟩, hrank, hlevel, hshown, hmore, ?_,
    hignores loudWords _ none hgiven.2, hdecides loudWords none loud hloud hlevel⟩
  obtain ⟨status, files, out, records, error, hends, hloudRun, hquietRun, -⟩ :=
    hfilters quietWords loudWords quiet loud (some "trace") (some "error") hquiet hloud hgiven.1
      hgiven.2 hsame rfl rfl hrank
  refine ⟨status, files, out, records, error, hends, ?_, ?_⟩
  · rw [hloudRun]
    simp only [machine, String.empty_append]
  · rw [hquietRun]
    simp only [machine, String.empty_append]
    rfl

end Rulebook.CommandLine
