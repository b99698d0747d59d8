import Rulebook.CommandLine.Program
import Rulebook.Proofs.Log.Records
import Rulebook.Proofs.Run.Correspondence
import Rulebook.Proofs.Run.Spared

/-!
Dry runs. A dry run changes nothing, so every language is answered as before the run; a run on the
disk that spares its rules gets the same answers, and so both come to the same unless the disk
refuses a file. On a machine a dry run reports each file that the disk would be handed, in order.
-/

namespace Rulebook

open Rulebook.Catalog (checkout answerIn rulesName sharedTree)
open Rulebook.Json (Value)
open Rulebook.Log (Logger Entry linesOf wouldWrite?)
open Rulebook.Sink (Taken)
open Rulebook.Text.Utf8 (encode)

/-! ## Dry runs on a tree -/

namespace Run

section DryRuns

variable {rules : Path} {t : FileTree} {request : Request} {plans : List (Except Failure Plan)}
  {log : Logger (StateT Taken (StateM FileTree))}

/-- A dry run takes whatever it is handed. -/
@[simp] theorem taken_dryRun {σ : Type} (s : σ) (files : Taken) :
    ((Sink.dryRun : Sink (StateM σ)).hand s files).refused = none :=
  Sink.taken_iff.2 fun _ _ _ => rfl

theorem outcome_dryRun (t : FileTree) (plans : List (Except Failure Plan)) :
    outcome Sink.dryRun t plans = ((plannedSummaries plans, filesBeforeFailure plans), t) := by
  rw [outcome_of_taken (taken_dryRun t _), Sink.storedAll_dryRun]

theorem run_checkout_dryRun (hkeys : ∀ language ∈ request.languages, Path.slash ∉ encode language)
    (hlog : IsQuiet log) (rules : Path) (t : FileTree) :
    ((request.run (checkout FileTree.host rules).recorded Sink.dryRun.recorded log).run []).run t =
      ((plannedSummaries (request.plans (answerIn t rules)),
        filesBeforeFailure (request.plans (answerIn t rules))), t) := by
  rw [run_checkout hkeys Sink.isSteady_dryRun hlog Sink.onlyAdds_dryRun (spares_dryRun rules t _),
    outcome_dryRun]

end DryRuns

end Run

/-! ## Following a run on a machine -/

section Lifted

variable {m n : Type → Type} [Monad m] [Monad n] [LawfulMonad n] {σ : Type}

/-- What corresponds to a computation once it is given a state that it does not look at. -/
def Correspondence.lifted (R : Correspondence m (StateT σ n)) : Correspondence m n where
  rel x y := R.rel x (StateT.lift y)
  rel_pure a := by
    rw [lift_pure]
    exact R.rel_pure a
  rel_bind hx hf := by
    rw [lift_bind]
    exact R.rel_bind hx hf

theorem Correspondence.Reports.lifted {R : Correspondence m (StateT σ n)} {write : Entry → m Unit}
    (h : R.Reports write fun _ => pure ()) : R.lifted.Reports write fun _ => pure () := by
  intro entry hentry
  show R.rel (write entry) (StateT.lift (pure ()))
  rw [lift_pure]
  exact h entry hentry

end Lifted

namespace CommandLine

def preview (file : Path × String) : Option String × Option Int :=
  (some file.1.display, some ((encode file.2).length : Int))

/-- A computation on a machine goes as one on files, and what the other one records is what the log
tells. -/
def Follows {α : Type} (x : StateM Machine α) (y : StateT Taken (StateM FileTree) α) : Prop :=
  ∀ machine taken, ∃ records more,
    x.run machine = (((y.run taken).run machine.files).1.1,
      { machine with
        files := ((y.run taken).run machine.files).2
        err := machine.err ++ linesOf records }) ∧
    ((y.run taken).run machine.files).1.2 = taken ++ more ∧
    records.filterMap wouldWrite? = more.map preview

section Follows

variable {α β : Type}

theorem follows_pure (a : α) : Follows (pure a) (pure a) := by
  intro machine taken
  refine ⟨[], [], ?_, (List.append_nil taken).symm, rfl⟩
  rw [Log.linesOf_nil, String.append_empty]
  rfl

theorem Follows.bind {x : StateM Machine α} {y : StateT Taken (StateM FileTree) α}
    {f : α → StateM Machine β} {g : α → StateT Taken (StateM FileTree) β} (h : Follows x y)
    (hf : ∀ a, Follows (f a) (g a)) : Follows (x >>= f) (y >>= g) := by
  intro machine taken
  obtain ⟨records, more, hx, htaken, hrecords⟩ := h machine taken
  rcases hy : (y.run taken).run machine.files with ⟨⟨a, taken₁⟩, files₁⟩
  rw [hy] at hx htaken
  obtain rfl : taken₁ = taken ++ more := htaken
  obtain ⟨others, others', hfx, htakens, hothers⟩ :=
    hf a { machine with files := files₁, err := machine.err ++ linesOf records } (taken ++ more)
  refine ⟨records ++ others, more ++ others', ?_, ?_, ?_⟩
  · rw [Run.run_recorded_bind hy, run_bind_of_run hx, hfx]
    simp [String.append_assoc]
  · rw [Run.run_recorded_bind hy, ← List.append_assoc]
    exact htakens
  · rw [List.filterMap_append, List.map_append, hrecords, hothers]

/-- A computation on the files of a machine goes as the one on files. -/
theorem follows_onFiles (act : StateM FileTree α) :
    Follows (Machine.onFiles act) (StateT.lift act) := by
  intro machine taken
  refine ⟨[], [], ?_, (List.append_nil taken).symm, rfl⟩
  rw [Log.linesOf_nil, String.append_empty]
  rfl

def following : Correspondence (StateM Machine) (StateT Taken (StateM FileTree)) where
  rel := Follows
  rel_pure := follows_pure
  rel_bind := Follows.bind

theorem reads_onFiles : following.lifted.Reads Machine.console.host FileTree.host where
  isDirectory _ := follows_onFiles _
  isFile _ := follows_onFiles _
  list _ := follows_onFiles _
  read _ := follows_onFiles _

end Follows

/-! ## What a machine logs -/

section Logs

variable {settings : Log.Settings} (hformat : settings.format = .json)
  (hfile : settings.file = none) (environment : Option String)

include hformat hfile

/-- An entry that is shown is added to the standard error as a record on a line. -/
theorem run_write (entry : Entry) (machine : Machine) :
    ((logger Machine.console settings environment).write entry).run machine =
      ((), { machine with
        err := machine.err ++
          linesOf (settings.record? (settings.filter environment) entry).toList }) := by
  rw [logger]
  dsimp only
  rw [Log.Settings.line?_eq hformat]
  cases settings.record? (settings.filter environment) entry with
  | none =>
    rw [Option.toList_none, Log.linesOf_nil, String.append_empty]
    rfl
  | some record =>
    rw [Option.toList_some, Log.linesOf_singleton]
    show (writeLine Machine.console settings record.compact).run machine = _
    rw [writeLine, hfile]
    rfl

/-- What does not come from a sink tells of no file. -/
theorem reports_follow : following.Reports (logger Machine.console settings environment).write
    (fun _ => pure ()) := by
  intro entry hentry machine taken
  have hwrite := run_write hformat hfile environment entry machine
  refine ⟨_, [], hwrite, (List.append_nil taken).symm, ?_⟩
  cases hrecord : settings.record? (settings.filter environment) entry with
  | none => rfl
  | some record =>
    have hnone : wouldWrite? record = none := by
      refine Log.Settings.wouldWrite?_record? hrecord fun event hevent => ?_
      unfold Entry.area at hentry
      rw [hevent] at hentry
      exact hentry
    rw [Option.toList_some, List.filterMap_cons, hnone]
    rfl

/-- A file that would be written is told of, from the level of information on. -/
theorem hands_dryRun (hlevel : Log.Verbosity.info.rank ≤ settings.verbosity.rank) :
    following.Hands (logger Machine.console settings none).write (fun _ => pure ()) Sink.dryRun
      (Sink.dryRun : Sink (StateM FileTree)).recorded := by
  intro around path contents machine taken
  have hwrite := run_write hformat hfile none
    ⟨around, .event (.wouldWriteArtifact path (Text.Utf8.byteCount contents))⟩ machine
  have hfilter : settings.filter none = Log.Filter.ofVerbosity settings.verbosity := by
    unfold Log.Settings.filter
    cases settings.useEnvironment <;> rfl
  have hshown := Log.shows_wouldWriteArtifact hlevel ((settings.filter none).shownSpans around) path
    (Text.Utf8.byteCount contents)
  rw [← hfilter] at hshown
  have hrecord : settings.record? (settings.filter none)
      ⟨around, .event (.wouldWriteArtifact path (Text.Utf8.byteCount contents))⟩ = some _ :=
    if_pos hshown
  refine ⟨_, [(path, contents)], run_bind_of_run hwrite _, rfl, ?_⟩
  rw [hrecord, Option.toList_some, List.filterMap_cons,
    Log.wouldWrite?_eventRecord_wouldWriteArtifact, Text.Utf8.byteCount_eq]
  rfl

end Logs

/-! ## Dry runs on a machine -/

/-- What a command line asks for that previews a run: a dry run that logs in the format for
programs, to the standard error, from the level of information on. -/
structure Arguments.PreviewOf (arguments : Arguments) (request : Run.Request) (rules : Path) :
    Prop where
  request : arguments.request = request
  rules : arguments.rules = rules
  dryRun : arguments.dryRun = true
  format : arguments.log.format = .json
  file : arguments.log.file = none
  level : Log.Verbosity.info.rank ≤ arguments.log.verbosity.rank

section Machines

variable {request : Run.Request} {rules : Path} {arguments : Arguments}
  (hkeys : ∀ language ∈ request.languages, Path.slash ∉ encode language)
  (h : arguments.PreviewOf request rules) (machine : Machine)

include hkeys h

theorem run_runArguments_preview :
    let plans := request.plans (answerIn machine.files rules)
    ∃ records,
      (runArguments Machine.console arguments (logger Machine.console arguments.log none)).run
          machine =
        (Run.plannedSummaries plans, { machine with err := machine.err ++ linesOf records }) ∧
      records.filterMap wouldWrite? = (Run.filesBeforeFailure plans).map preview := by
  intro plans
  have hreports := reports_follow h.format h.file none
  have hsource : following.Fetches (logger Machine.console arguments.log none).write
      (fun _ => pure ()) (checkout Machine.console.host arguments.rules)
      (checkout FileTree.host arguments.rules).recorded :=
    Correspondence.fetches_checkout reads_onFiles hreports.lifted _
  have hsink : following.Hands (logger Machine.console arguments.log none).write
      (fun _ => pure ()) (sink Machine.console arguments) Sink.dryRun.recorded := by
    rw [sink, if_pos h.dryRun]
    exact hands_dryRun h.format h.file h.level
  have hruns : Follows
      (runArguments Machine.console arguments (logger Machine.console arguments.log none))
      ((Logger.silent : Logger (StateT Taken (StateM FileTree))).within
        (runSpan arguments.request.mode) fun log => arguments.request.run
          (checkout FileTree.host arguments.rules).recorded Sink.dryRun.recorded log) :=
    Correspondence.within hreports [] (by exact nofun)
      (Correspondence.runLanguages hreports hsource hsink arguments.request _ _)
  -- On files alone the dry run comes to what is planned.
  rw [Run.isQuiet_silent.within] at hruns
  obtain ⟨records, more, hrun, htaken, hrecords⟩ := hruns machine []
  have hdry := Run.run_checkout_dryRun hkeys
    (Run.isQuiet_silent.entered (runSpan arguments.request.mode)) rules machine.files
  rw [h.request, h.rules] at hrun htaken
  rw [h.request] at hdry
  rw [hdry] at hrun htaken
  refine ⟨records, hrun, ?_⟩
  rw [hrecords, show more = Run.filesBeforeFailure plans from htaken.symm]

/-- A command line whose dry run succeeds. -/
theorem execute_preview {words : List String} (hwords : Arguments.ofWords words = .ok arguments)
    {summaries : List Run.Summary}
    (hplanned : Run.plannedSummaries (request.plans (answerIn machine.files rules)) =
      .ok summaries) :
    ∃ records,
      machine.execute none words = (.success, { machine with
        out := machine.out ++ report arguments summaries
        err := machine.err ++ linesOf records }) ∧
      records.filterMap wouldWrite? = (Run.filesBeforeFailure
        (request.plans (answerIn machine.files rules))).map preview := by
  obtain ⟨records, hrun, hrecords⟩ := run_runArguments_preview hkeys h machine
  rw [hplanned] at hrun
  have hopen : (openLog Machine.console arguments.log).run machine = (.ok (), machine) := by
    rw [openLog, h.file]
    rfl
  refine ⟨records, ?_, hrecords⟩
  unfold Machine.execute runWords
  rw [hwords]
  exact (run_bind_of_run hopen _).trans (run_bind_of_run hrun _)

end Machines

end CommandLine

/-! ## Whole runs -/

namespace Run

open CommandLine (Arguments Machine preview report)

/-- A dry run leaves the tree as it is. If the run on the disk spares its rules, the dry run has the
same summaries or the same failure to fetch rules or to make them canonical; and where it succeeds,
a command line for it on a machine logs a record for each file that the run on the disk has written,
in the same order, with its path and the number of its bytes. -/
theorem dry_run_previews {request : Request}
    (hkeys : ∀ language ∈ request.languages, Path.slash ∉ encode language) (rules : Path)
    (t : FileTree) :
    let source := checkout FileTree.host rules
    let disk := Sink.disk FileTree.host
    let real := (request.run source disk Logger.silent).run t
    let written := ((request.record source disk).run t).1.2
    let dry := (request.run source Sink.dryRun Logger.silent).run t
    dry.2 = t ∧
    (Spares disk rules t written →
      (∀ summaries, real.1 = .ok summaries → dry.1 = .ok summaries) ∧
      (∀ e, real.1 = .error (.fetch e) → dry.1 = .error (.fetch e)) ∧
      (∀ e, real.1 = .error (.malformedRule e) → dry.1 = .error (.malformedRule e)) ∧
      ∀ summaries, real.1 = .ok summaries → real.2 = disk.storedAll t written ∧
        ∀ (machine : Machine) (words : List String) (arguments : Arguments),
          machine.files = t → Arguments.ofWords words = .ok arguments →
          arguments.PreviewOf request rules →
          ∃ records,
            machine.execute none words = (.success, { machine with
              out := machine.out ++ report arguments summaries
              err := machine.err ++ linesOf records }) ∧
            records.filterMap wouldWrite? = written.map preview) := by
  intro source disk real written dry
  let plans := request.plans (answerIn t rules)
  have hdry : dry = (plannedSummaries plans, t) := by
    show (request.run source Sink.dryRun Logger.silent).run t = _
    have hrecord : (request.record source Sink.dryRun).run t = _ :=
      run_checkout_dryRun hkeys isQuiet_silent rules t
    rw [run_eq_record, hrecord]
  rw [hdry]
  refine ⟨rfl, fun hspares => ?_⟩
  have hrecord : (request.record source disk).run t = outcome disk t plans :=
    run_checkout hkeys (Sink.isSteady_disk _) isQuiet_silent Sink.onlyAdds_disk hspares
  have hreal : real = ((outcome disk t plans).1.1, (outcome disk t plans).2) := by
    show (request.run source disk Logger.silent).run t = _
    rw [run_eq_record, hrecord]
  -- Unless the disk refuses a file, the run comes to what is planned, as the dry run does.
  have hplanned (hwrite : ∀ e, real.1 ≠ .error (.write e)) :
      real = (plannedSummaries plans, disk.storedAll t (filesBeforeFailure plans)) ∧
        written = filesBeforeFailure plans := by
    have htaken : (disk.hand t (filesBeforeFailure plans)).refused = none :=
      taken_of_outcome fun e he => hwrite e (by rw [hreal]; exact he)
    have houtcome := outcome_of_taken htaken
    refine ⟨by rw [hreal, houtcome], ?_⟩
    show ((request.record source disk).run t).1.2 = _
    rw [hrecord, houtcome]
  have hsame {result : Except Failure (List Summary)} (hresult : real.1 = result)
      (hwrite : ∀ e, result ≠ .error (.write e)) : plannedSummaries plans = result := by
    rw [(hplanned (hresult ▸ hwrite)).1] at hresult
    exact hresult
  refine ⟨fun summaries hok => hsame hok nofun, fun e he => hsame he nofun,
    fun e he => hsame he nofun, fun summaries hok => ?_⟩
  obtain ⟨hfinal, hwritten⟩ := hplanned (by rw [hok]; exact nofun)
  refine ⟨by rw [hfinal, hwritten], ?_⟩
  rintro machine words arguments rfl hwords hpreview
  rw [hwritten]
  exact CommandLine.execute_preview hkeys hpreview machine hwords (hsame hok nofun)

def previewWords : List String := [
  "--log-format", "json", "rule-data", "--rules-dir", "rules", "--language-key", "js",
  "--language-key", "java", "--target-dir", "out", "--dry-run"]

def previewArguments : Arguments where
  log := { colors := false, format := .json }
  rules := ⟨rulesName.bytes⟩
  request := { mode := .ruleData, languages := ["js", "java"], target := .ofText "out" }
  dryRun := true

theorem dry_run_previews_languages :
    let request := previewArguments.request
    let source := checkout FileTree.host previewArguments.rules
    let disk := Sink.disk FileTree.host
    let written := ((request.record source disk).run sharedTree).1.2
    let machine : Machine := { files := sharedTree }
    (∀ language ∈ request.languages, Path.slash ∉ encode language) ∧
    Spares disk previewArguments.rules sharedTree written ∧
    Arguments.ofWords previewWords = .ok previewArguments ∧
    previewArguments.PreviewOf request previewArguments.rules ∧
    written.map (·.1) = [
      .ofText "out/js/S1.html", .ofText "out/js/S1.json", .ofText "out/js/S2.html",
      .ofText "out/js/S2.json", .ofText "out/java/S1.html", .ofText "out/java/S1.json"] ∧
    ∃ summaries, ((request.run source disk Logger.silent).run sharedTree).1 = .ok summaries ∧
      (request.run source Sink.dryRun Logger.silent).run sharedTree =
        (.ok summaries, sharedTree) ∧
      ∃ records, machine.execute none previewWords = (.success, { machine with
          out := machine.out ++ report previewArguments summaries
          err := machine.err ++ linesOf records }) ∧
        records.filterMap wouldWrite? = written.map preview := by
  have hkeys : ∀ language ∈ previewArguments.request.languages, Path.slash ∉ encode language := by
    decide
  have hrun :
      let recorded := (previewArguments.request.record
        (checkout FileTree.host previewArguments.rules) (Sink.disk FileTree.host)).run sharedTree
      recorded.1.1.toOption.isSome = true ∧
      Spares (Sink.disk FileTree.host) previewArguments.rules sharedTree recorded.1.2 ∧
      recorded.1.2.map (·.1) = [
        .ofText "out/js/S1.html", .ofText "out/js/S1.json", .ofText "out/js/S2.html",
        .ofText "out/js/S2.json", .ofText "out/java/S1.html",
        .ofText "out/java/S1.json"] := by decide +kernel
  have hwords : Arguments.ofWords previewWords = .ok previewArguments := by rfl
  have hpreview : previewArguments.PreviewOf previewArguments.request previewArguments.rules :=
    ⟨rfl, rfl, rfl, rfl, rfl, by decide⟩
  have hpreviews := dry_run_previews hkeys previewArguments.rules sharedTree
  have hreal := run_eq_record previewArguments.request
    (checkout FileTree.host previewArguments.rules) (Sink.disk FileTree.host) sharedTree
  dsimp only at hrun hpreviews ⊢
  rw [hreal] at hpreviews ⊢
  generalize (previewArguments.request.record (checkout FileTree.host previewArguments.rules)
    (Sink.disk FileTree.host)).run sharedTree = recorded at hrun hpreviews ⊢
  obtain ⟨⟨result, written⟩, after⟩ := recorded
  obtain ⟨hok, hspares, hpaths⟩ := hrun
  obtain ⟨summaries, rfl⟩ := exists_eq_ok_of_isSome hok
  obtain ⟨htree, hreal⟩ := hpreviews
  obtain ⟨hsame, -, -, hlogged⟩ := hreal hspares
  obtain ⟨-, hmachine⟩ := hlogged summaries rfl
  exact ⟨hkeys, hspares, hwords, hpreview, hpaths, summaries, rfl,
    Prod.ext (hsame summaries rfl) htree,
    hmachine { files := sharedTree } previewWords previewArguments rfl hwords hpreview⟩

end Run

end Rulebook
