import Rulebook.Proofs.Rule.RoundTrip
import Rulebook.Proofs.Run.Record

/-!
Both modes of a run say the same about a catalog. On the same languages they fail alike, and where
they do not fail the rule data holds all that the registrars are made from: reading it back gives
rules with the same registrars.
-/

namespace Rulebook.Run

open Rulebook.Catalog (Source FetchError)
open Rulebook.Log (Logger)
open Rulebook.Sink (Taken)

/-! ## Runs in which no write fails -/

section Writes

variable {σ : Type} {sink : Sink (StateM σ)} {log : Logger (StateT Taken (StateM σ))}

def resultFrom {α : Type} (x : StateT Taken (StateM σ) α) (taken : Taken) (s : σ) : α × Taken :=
  ((x.run taken).run s).1

/-- The result is the planned one unless a write failed. -/
def PlannedUnlessRefused {α : Type} (result planned : Except Failure α × Taken) : Prop :=
  (∃ e, result.1 = .error (.write e)) ∨ result = planned

theorem writeAll_planned (files : List (Path × String)) (taken : Taken) (s : σ) :
    PlannedUnlessRefused (resultFrom (writeAll sink.recorded log files) taken s)
      (.ok (), taken ++ files) := by
  induction files generalizing taken s with
  | nil =>
    rw [List.append_nil]
    exact Or.inr rfl
  | cons file rest ih =>
    obtain ⟨path, contents⟩ := file
    rcases hwrite : (sink.write (.quiet log.around) path contents).run s with ⟨e | _, s'⟩
    · rw [resultFrom, writeAll, run_recorded_bind (run_recorded_write_error taken hwrite)]
      exact Or.inl ⟨e, rfl⟩
    · have hrest := ih (taken ++ [(path, contents)]) s'
      rw [List.append_assoc] at hrest
      rw [resultFrom, writeAll, run_recorded_bind (run_recorded_write_ok taken hwrite)]
      exact hrest

/-- A step whose error ends the computation, and what is done with its value. -/
theorem PlannedUnlessRefused.bind {α β : Type} {x : StateT Taken (StateM σ) (Except Failure α)}
    {next : Except Failure α → StateT Taken (StateM σ) (Except Failure β)}
    {planned : Except Failure α} {taken taken' : Taken} {s : σ} {target : Except Failure β × Taken}
    (hx : PlannedUnlessRefused (resultFrom x taken s) (planned, taken'))
    (hstop : ∀ e, next (.error e) = pure (.error e))
    (herror : ∀ e, planned = .error e → target = (.error e, taken'))
    (hok : ∀ a, planned = .ok a →
      ∀ s', PlannedUnlessRefused (resultFrom (next (.ok a)) taken' s') target) :
    PlannedUnlessRefused (resultFrom (x >>= next) taken s) target := by
  unfold resultFrom at hx hok ⊢
  rw [StateT.run_bind, StateT.run_bind]
  generalize (x.run taken).run s = outcome at hx ⊢
  obtain ⟨⟨result, left⟩, s'⟩ := outcome
  obtain ⟨failed, hfailed⟩ | heq := hx
  · -- A write failed inside the step, so the computation ends with that failure.
    obtain rfl : result = .error (.write failed) := hfailed
    show PlannedUnlessRefused (resultFrom (next (.error (.write failed))) left s') target
    rw [hstop]
    exact Or.inl ⟨failed, rfl⟩
  · obtain ⟨rfl, rfl⟩ := Prod.mk.inj heq
    cases result with
    | error e =>
      show PlannedUnlessRefused (resultFrom (next (.error e)) left s') target
      rw [hstop]
      exact Or.inr (herror e rfl).symm
    | ok a => exact hok a rfl s'

def plannedLanguage (plan : Except Failure Plan) (taken : Taken) : Except Failure Summary × Taken :=
  match plan with
  | .error e => (.error e, taken)
  | .ok plan => (.ok plan.summary, taken ++ plan.files)

theorem runLanguage_planned (sink : Sink (StateM σ)) (hlog : IsQuiet log)
    (answer : String → Except FetchError (List RawRule)) (request : Request) (language : String)
    (taken : Taken) (s : σ) :
    PlannedUnlessRefused
      (resultFrom (runLanguage (Source.ofAnswers answer) sink.recorded request log language)
        taken s)
      (plannedLanguage (request.plan answer language) taken) := by
  have hquiet := hlog.entered (request.mode.span language)
  rw [runLanguage, hlog.within]
  unfold runInside Request.plan plannedLanguage
  simp only [hquiet.report, pure_bind, fetchRules_eq hquiet]
  cases canonicalRules answer language with
  | error e => exact Or.inr rfl
  | ok rules =>
    simp only [Except.map, placed_batch]
    refine (writeAll_planned (request.filesOf language rules) taken s).bind (fun _ => rfl)
      (fun e he => by cases he) fun _ _ s' => Or.inr ?_
    simp only [Request.planOf, ← emitted_batch, ← activations_batch]
    rfl

theorem runLanguages_planned (sink : Sink (StateM σ)) (hlog : IsQuiet log)
    (answer : String → Except FetchError (List RawRule)) (request : Request)
    (languages : List String) (taken : Taken) (s : σ) :
    PlannedUnlessRefused
      (resultFrom (runLanguages (Source.ofAnswers answer) sink.recorded request log languages)
        taken s)
      (plannedSummaries (languages.map (request.plan answer)),
        taken ++ filesBeforeFailure (languages.map (request.plan answer))) := by
  induction languages generalizing taken s with
  | nil =>
    rw [List.map_nil, filesBeforeFailure, List.append_nil]
    exact Or.inr rfl
  | cons language rest ih =>
    rw [runLanguages, List.map_cons]
    have hfirst := runLanguage_planned sink hlog answer request language taken s
    cases hplan : request.plan answer language with
    | error e =>
      -- Without a plan nothing follows this language, neither in the run nor among the plans.
      rw [hplan] at hfirst
      refine hfirst.bind (fun _ => rfl) (fun d hd => ?_) (fun _ ha => by cases ha)
      cases hd
      rw [filesBeforeFailure, List.append_nil]
      rfl
    | ok plan =>
      rw [hplan] at hfirst
      refine hfirst.bind (fun _ => rfl) (fun _ he => by cases he) fun summary hsummary s' => ?_
      cases hsummary
      rw [filesBeforeFailure, ← List.append_assoc, plannedSummaries_ok_cons]
      refine (ih (taken ++ plan.files) s').bind (fun _ => rfl) (fun e he => ?_)
        fun summaries hall s'' => Or.inr ?_
      · rw [he]
        rfl
      · rw [hall]
        rfl

end Writes

/-! ## What both modes make of a language -/

/-- The documentation and the data of a rule as they are written, under one name. -/
structure Export where
  stem : String
  documentation : String
  data : String

def Export.files (directory : Path) (exports : List Export) : List (Path × String) :=
  exports.flatMap fun written => [
    (directory.join (.ofText (written.stem ++ ".html")), written.documentation),
    (directory.join (.ofText (written.stem ++ ".json")), written.data)]

structure Counterparts where
  registrars : Summary
  registrarFiles : List (Path × String)
  ruleData : Summary
  ruleDataFiles : List (Path × String)

/-- Both modes say the same of a language, and its rule data, read back, has its registrars. -/
structure Counterparts.Agree (settings : RegistrarSettings) (target : Path) (language : String)
    (made : Counterparts) : Prop where
  languages : made.registrars.language = language ∧ made.ruleData.language = language
  directories : made.registrars.directory = target.join (.ofText language) ∧
    made.ruleData.directory = target.join (.ofText language)
  fetched : made.registrars.fetched = made.ruleData.fetched
  emittedAll : made.ruleData.emitted = made.ruleData.fetched
  emittedSome : made.registrars.emitted ≤ made.registrars.fetched
  files : made.registrars.files = made.registrarFiles.map (·.1) ∧
    made.ruleData.files = made.ruleDataFiles.map (·.1)
  readBack : ∃ exports rules,
    made.ruleDataFiles = Export.files (target.join (.ofText language)) exports ∧
    rules.length = made.ruleData.fetched ∧
    exports.map (fun written => Rule.ofText? written.data) = rules.map some ∧
    exports.map (·.documentation) = rules.map (·.htmlDocumentation) ∧
    made.registrarFiles =
      [ (Registrar.emit rules (settings.options language)).repository,
        (Registrar.emit rules (settings.options language)).profile].map fun file =>
          ((target.join (.ofText language)).join (.ofText file.fileName), file.contents)

section Plans

variable (settings : RegistrarSettings) (languages : List String) (target : Path)

def registrarRequest : Request := ⟨.registrars settings, languages, target⟩

def ruleDataRequest : Request := ⟨.ruleData, languages, target⟩

def counterparts (language : String) (rules : List Rule) : Counterparts where
  registrars := ((registrarRequest settings languages target).planOf language rules).summary
  registrarFiles := ((registrarRequest settings languages target).planOf language rules).files
  ruleData := ((ruleDataRequest languages target).planOf language rules).summary
  ruleDataFiles := ((ruleDataRequest languages target).planOf language rules).files

theorem counterparts_agree (language : String) (rules : List Rule) :
    (counterparts settings languages target language rules).Agree settings target language where
  languages := ⟨rfl, rfl⟩
  directories := ⟨rfl, rfl⟩
  fetched := rfl
  emittedAll := rfl
  emittedSome := by
    show (Registrar.compatibleRules rules (settings.options language).targetLanguage).length ≤
      rules.length
    exact List.length_filter_le _ rules
  files := ⟨rfl, rfl⟩
  readBack := by
    refine ⟨rules.map fun rule => ⟨rule.name, rule.htmlDocumentation, rule.dataText⟩, rules, ?_,
      rfl, ?_, ?_, ?_⟩
    · rw [Export.files, List.flatMap_map]
      rfl
    · have hread (rule : Rule) : Rule.ofText? rule.dataText = some rule :=
        Rule.ofText?_write (by simp [Rule.layouts]) rule
      simp only [List.map_map, Function.comp_def, hread]
    · simp only [List.map_map, Function.comp_def]
    · show (registrarRequest settings languages target).filesOf language rules = _
      rw [← placed_batch]
      simp only [registrarRequest, Request.directory, Mode.batch, placed, List.map_cons,
        List.map_nil]

variable (answer : String → Except FetchError (List RawRule))

theorem canonicalRules_error {answer : String → Except FetchError (List RawRule)}
    {language : String} {e : Failure} (h : canonicalRules answer language = .error e) :
    (∃ cause, e = .fetch cause) ∨ ∃ cause, e = .malformedRule cause := by
  unfold canonicalRules at h
  split at h
  · next cause _ =>
    cases h
    exact Or.inl ⟨cause, rfl⟩
  · split at h
    · next cause _ =>
      cases h
      exact Or.inr ⟨cause, rfl⟩
    · cases h

/-- The plans of both modes are missing for the same languages and for the same reason. -/
theorem plans_agree (keys : List String) :
    let registrars := keys.map ((registrarRequest settings languages target).plan answer)
    let ruleData := keys.map ((ruleDataRequest languages target).plan answer)
    (∃ e, plannedSummaries registrars = .error e ∧ plannedSummaries ruleData = .error e ∧
      ((∃ cause, e = .fetch cause) ∨ ∃ cause, e = .malformedRule cause)) ∨
    ∃ made : List Counterparts,
      plannedSummaries registrars = .ok (made.map (·.registrars)) ∧
      filesBeforeFailure registrars = made.flatMap (·.registrarFiles) ∧
      plannedSummaries ruleData = .ok (made.map (·.ruleData)) ∧
      filesBeforeFailure ruleData = made.flatMap (·.ruleDataFiles) ∧
      List.Forall₂ (Counterparts.Agree settings target) keys made := by
  induction keys with
  | nil => exact Or.inr ⟨[], rfl, rfl, rfl, rfl, .nil⟩
  | cons language rest ih =>
    have hplan (request : Request) : request.plan answer language =
        (canonicalRules answer language).map (request.planOf language) := rfl
    simp only [List.map_cons, hplan]
    cases hrules : canonicalRules answer language with
    | error e =>
      -- Neither mode is asked before the rules are canonical.
      exact Or.inl ⟨e, rfl, rfl, canonicalRules_error hrules⟩
    | ok rules =>
      simp only [Except.map, plannedSummaries_ok_cons, filesBeforeFailure]
      obtain ⟨e, hregistrars, hdata, he⟩ | ⟨made, hregistrars, hfiles, hdata, hdataFiles, hall⟩ :=
        ih
      · refine Or.inl ⟨e, ?_, ?_, he⟩
        · rw [hregistrars]
        · rw [hdata]
      · refine Or.inr ⟨counterparts settings languages target language rules :: made, ?_, ?_, ?_,
          ?_, .cons (counterparts_agree settings languages target language rules) hall⟩
        · rw [hregistrars]
          rfl
        · rw [hfiles]
          rfl
        · rw [hdata]
          rfl
        · rw [hdataFiles]
          rfl

end Plans

/-! ## Whole runs -/

/-- Two runs on the same languages, one for registrars and one for rule data, in which no write
fails: both end with the same failure of the source or of a raw rule, or both succeed and agree on
every language. -/
theorem modes_agree {σ : Type} (sink : Sink (StateM σ)) (s : σ)
    (answer : String → Except FetchError (List RawRule)) (settings : RegistrarSettings)
    (languages : List String) (target : Path) :
    let registrars :=
      (((registrarRequest settings languages target).record (Source.ofAnswers answer) sink).run s).1
    let ruleData :=
      (((ruleDataRequest languages target).record (Source.ofAnswers answer) sink).run s).1
    (∀ e, registrars.1 ≠ .error (.write e)) → (∀ e, ruleData.1 ≠ .error (.write e)) →
    (∃ e, registrars.1 = .error e ∧ ruleData.1 = .error e ∧
      ((∃ cause, e = .fetch cause) ∨ ∃ cause, e = .malformedRule cause)) ∨
    ∃ made : List Counterparts,
      registrars.1 = .ok (made.map (·.registrars)) ∧
      registrars.2 = made.flatMap (·.registrarFiles) ∧
      ruleData.1 = .ok (made.map (·.ruleData)) ∧
      ruleData.2 = made.flatMap (·.ruleDataFiles) ∧
      List.Forall₂ (Counterparts.Agree settings target) languages made := by
  intro registrars ruleData hregistrars hruleData
  -- Either run results in what was planned, since none of its writes failed.
  have hplanned (request : Request) (result : Except Failure (List Summary) × Taken)
      (hresult : result = ((request.record (Source.ofAnswers answer) sink).run s).1)
      (hwrites : ∀ e, result.1 ≠ .error (.write e)) :
      result = (plannedSummaries (request.languages.map (request.plan answer)),
        filesBeforeFailure (request.languages.map (request.plan answer))) := by
    rw [Request.record, recorded_ofAnswers] at hresult
    obtain ⟨e, he⟩ | heq := runLanguages_planned sink isQuiet_silent answer request
      request.languages [] s
    · rw [hresult] at hwrites
      exact absurd he (hwrites e)
    · rw [hresult]
      exact heq
  rw [hplanned (registrarRequest settings languages target) registrars rfl hregistrars,
    hplanned (ruleDataRequest languages target) ruleData rfl hruleData]
  exact plans_agree settings languages target answer languages

/-- A rule without most of its fields, with a tag twice and an escape in its documentation. -/
def sparseRule : RawRule where
  key := "S1"
  manifest := .object [
    ("defaultSeverity", .string "Major"),
    ("scope", .string "Tests"),
    ("tags", .array [.string "b", .string "a", .string "b"]),
    ("title", .string "\"\\"),
    ("type", .string "BUG")]
  documentation := some "<p>\n\u2028</p>"

def sparseAnswer (language : String) : Except FetchError (List RawRule) :=
  if language = "js" then .ok [sparseRule] else .error (.directoryNotFound (.ofText language))

def sparseSettings : RegistrarSettings := { packageName := "org.example" }

theorem modes_agree_sparse :
    let registrars := (((registrarRequest sparseSettings ["js"] (.ofText "out")).record
      (Source.ofAnswers sparseAnswer) (Sink.dryRun (m := StateM Unit))).run ()).1
    let ruleData := (((ruleDataRequest ["js"] (.ofText "out")).record
      (Source.ofAnswers sparseAnswer) (Sink.dryRun (m := StateM Unit))).run ()).1
    (∀ e, registrars.1 ≠ .error (.write e)) ∧ (∀ e, ruleData.1 ≠ .error (.write e)) ∧
    ∃ made : List Counterparts,
      registrars.1 = .ok (made.map (·.registrars)) ∧
      registrars.2 = made.flatMap (·.registrarFiles) ∧
      ruleData.1 = .ok (made.map (·.ruleData)) ∧
      ruleData.2 = made.flatMap (·.ruleDataFiles) ∧
      List.Forall₂ (Counterparts.Agree sparseSettings (.ofText "out")) ["js"] made := by
  intro registrars ruleData
  have hregistrars : ∃ summaries, registrars.1 = .ok summaries := ⟨_, rfl⟩
  have hruleData : ∃ summaries, ruleData.1 = .ok summaries := ⟨_, rfl⟩
  have hfirst : ∀ e, registrars.1 ≠ .error (.write e) := by
    obtain ⟨summaries, h⟩ := hregistrars
    intro e he
    cases h.symm.trans he
  have hsecond : ∀ e, ruleData.1 ≠ .error (.write e) := by
    obtain ⟨summaries, h⟩ := hruleData
    intro e he
    cases h.symm.trans he
  refine ⟨hfirst, hsecond, ?_⟩
  obtain ⟨e, he, -⟩ | h := modes_agree Sink.dryRun () sparseAnswer sparseSettings ["js"]
    (.ofText "out") hfirst hsecond
  · obtain ⟨summaries, hok⟩ := hregistrars
    cases hok.symm.trans he
  · exact h

end Rulebook.Run
